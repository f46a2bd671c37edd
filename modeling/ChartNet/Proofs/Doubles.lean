import ChartNet.Decimal.Binary
import Mathlib.Data.Nat.Log
import Mathlib.Tactic.Ring

/-!
# The bits of doubles

A double is given by its bits, one for the sign, eleven for the exponent and the rest for the
mantissa. Operations take a double apart, change a part and put it together again; here it is shown
that nothing is lost on the way (`pack_withSign`), and what the operations on signs do to the bits.

`code` is a double as a number. Up to `infiniteBits` codes are those of doubles without a minus
sign, in the order of size.
-/

namespace ChartNet.Decimal

open Float.Model UnpackedFloat

/-! ### Parts of the bits -/

/-- Sign, exponent and mantissa stand side by side in the bits of a double. -/
theorem toNat_packComponents (s : Sign) (e : BitVec 11) (m : BitVec 52) :
    (packComponents Format.binary64 s e m).toNat =
      s.toBitVec.toNat * 2 ^ 63 + e.toNat * 2 ^ 52 + m.toNat := by
  have he := e.isLt
  have hm := m.isLt
  rw [packComponents, BitVec.toNat_append, BitVec.toNat_append, ← Nat.shiftLeft_add_eq_or_of_lt hm,
    ← Nat.shiftLeft_add_eq_or_of_lt he, Nat.shiftLeft_eq, Nat.shiftLeft_eq]
  ring

theorem toNat_unpackExponent (b : BitVec 64) :
    (@unpackExponent Format.binary64 b).toNat = b.toNat / 2 ^ 52 % 2 ^ 11 := by
  simp [unpackExponent, BitVec.extractLsb, BitVec.extractLsb'_toNat, Nat.shiftRight_eq_div_pow]

theorem toNat_unpackMantissa (b : BitVec 64) :
    (@unpackMantissa Format.binary64 b).toNat = b.toNat % 2 ^ 52 := by
  simp [unpackMantissa, BitVec.extractLsb, BitVec.extractLsb'_toNat]

theorem toNat_unpackSign (b : BitVec 64) :
    (@unpackSign Format.binary64 b).toNat = b.toNat / 2 ^ 63 := by
  have hb := b.isLt
  change (BitVec.extractLsb' 63 1 b).toNat = b.toNat / 2 ^ 63
  rw [BitVec.extractLsb'_toNat, Nat.shiftRight_eq_div_pow]
  omega

/-! ### Taking apart and putting together -/

/-- The same number with another sign. -/
def withSign (s : Sign) : UnpackedFloat → UnpackedFloat
  | .infinity _ => .infinity s
  | .notANumber => .notANumber
  | .zero _ => .zero s
  | .finite _ m e hm => .finite s m e hm

/-- The bits are neither those of a number nor those of an infinity: the exponent is the largest
one, and the mantissa is not zero. -/
def IsNaN (b : BitVec 64) : Prop :=
  @unpackExponent Format.binary64 b = -1#11 ∧ @unpackMantissa Format.binary64 b ≠ 0#52

/-- The sign of some bits. -/
def signOf (b : BitVec 64) : Sign := Sign.ofBitVec (@unpackSign Format.binary64 b)

theorem unpack_of_isNaN {b : BitVec 64} (h : IsNaN b) :
    UnpackedFloat.unpack Format.binary64 b = .notANumber :=
  (if_pos h.1).trans (if_neg h.2)

/-- What bits stand for: with the largest exponent an infinity or nothing, with the smallest one a
zero or the smallest numbers, and else a number with a leading one that is not stored. All that
follows about single doubles goes through these cases. -/
theorem unpack_cases (b : BitVec 64) :
    IsNaN b ∨
    (@unpackExponent Format.binary64 b = -1#11 ∧ @unpackMantissa Format.binary64 b = 0#52 ∧
      UnpackedFloat.unpack Format.binary64 b = .infinity (signOf b)) ∨
    (@unpackExponent Format.binary64 b = 0#11 ∧ @unpackMantissa Format.binary64 b = 0#52 ∧
      UnpackedFloat.unpack Format.binary64 b = .zero (signOf b)) ∨
    (@unpackExponent Format.binary64 b = 0#11 ∧
      ∃ hm : 0 < (@unpackMantissa Format.binary64 b).toNat,
        UnpackedFloat.unpack Format.binary64 b = .finite (signOf b) _ (-1074) hm) ∨
    (@unpackExponent Format.binary64 b ≠ -1#11 ∧
      ∃ (m : Nat) (hm : 0 < m), m = 2 ^ 52 + (@unpackMantissa Format.binary64 b).toNat ∧
        UnpackedFloat.unpack Format.binary64 b =
          .finite (signOf b) m ((@unpackExponent Format.binary64 b).toNat - 1075) hm) := by
  by_cases hinf : @unpackExponent Format.binary64 b = -1#11
  · by_cases hzero : @unpackMantissa Format.binary64 b = 0#52
    · exact .inr (.inl ⟨hinf, hzero, (if_pos hinf).trans (if_pos hzero)⟩)
    · exact .inl ⟨hinf, hzero⟩
  · refine .inr (.inr ?_)
    by_cases hsub : @unpackExponent Format.binary64 b = 0#11
    · by_cases hzero : @unpackMantissa Format.binary64 b = 0#52
      · exact .inl ⟨hsub, hzero, (if_neg hinf).trans ((if_pos hsub).trans (dif_pos hzero))⟩
      · have hpos : 0 < (@unpackMantissa Format.binary64 b).toNat :=
          Nat.pos_of_ne_zero fun heq => hzero (BitVec.eq_of_toNat_eq heq)
        have hunpack : UnpackedFloat.unpack Format.binary64 b = .finite (signOf b) _
            ((@unpackExponent Format.binary64 b).toNat - 1075 + 1) hpos :=
          (if_neg hinf).trans ((if_pos hsub).trans (dif_neg hzero))
        rw [hsub] at hunpack
        exact .inr (.inl ⟨hsub, hpos, hunpack⟩)
    · -- the leading one, which is not stored, is put in front of the mantissa
      have happend : (1#1 ++ @unpackMantissa Format.binary64 b).toNat =
          2 ^ 52 + (@unpackMantissa Format.binary64 b).toNat := by
        rw [BitVec.toNat_append, ← Nat.shiftLeft_add_eq_or_of_lt (BitVec.isLt _)]
        rfl
      exact .inr (.inr ⟨hinf, _, by omega, happend, (if_neg hinf).trans (if_neg hsub)⟩)

/-- The smallest numbers are stored as they are, with exponent zero. -/
theorem pack_subnormal (s : Sign) {m : Nat} (hm : 0 < m) (hlt : m < 2 ^ 52) :
    UnpackedFloat.pack Format.binary64 (.finite s m (-1074) hm) =
      packComponents Format.binary64 s 0#11 (BitVec.ofNat 52 m) := by
  have hlog : m.log2 < 52 := (Nat.log2_lt hm.ne').mpr hlt
  change (if 2 ^ 11 ≤ 2 then packedInfinity Format.binary64 s else
    if m.log2 + 1 = 53 then packComponents Format.binary64 s 1#11 (BitVec.ofNat 52 m) else
      packComponents Format.binary64 s 0#11 (BitVec.ofNat 52 m)) = _
  rw [if_neg (by decide), if_neg (by omega)]

/-- The other numbers are stored without their leading one. -/
theorem pack_normal (s : Sign) {m k : Nat} (hm : 0 < m) (hle : 2 ^ 52 ≤ m) (hlt : m < 2 ^ 53)
    (hk : k < 2047) :
    UnpackedFloat.pack Format.binary64 (.finite s m (k - 1075) hm) =
      packComponents Format.binary64 s (BitVec.ofNat 11 k) (BitVec.ofNat 52 m) := by
  have hlog : m.log2 = 52 := (Nat.log2_eq_iff hm.ne').mpr ⟨hle, hlt⟩
  have hbiased : ((k : Int) - 1075 + 1023 + 52).toNat = k := by omega
  change (if 2 ^ 11 ≤ ((k : Int) - 1075 + 1023 + 52).toNat + 1 then _ else
    if m.log2 + 1 = 53 then packComponents Format.binary64 s
      (BitVec.ofNat 11 ((k : Int) - 1075 + 1023 + 52).toNat) _ else _) = _
  rw [hbiased, if_neg (by omega), if_pos (by omega)]

/-- Giving a number another sign keeps its other bits. Number, infinity and zero are looked at one
by one, since they are put into bits in different ways. -/
theorem pack_withSign (s : Sign) {b : BitVec 64} (h : ¬ IsNaN b) :
    UnpackedFloat.pack Format.binary64 (withSign s (UnpackedFloat.unpack Format.binary64 b)) =
      packComponents Format.binary64 s (@unpackExponent Format.binary64 b)
        (@unpackMantissa Format.binary64 b) := by
  have hlt : (@unpackMantissa Format.binary64 b).toNat < 2 ^ 52 := BitVec.isLt _
  rcases unpack_cases b with
    hnan | ⟨he, hm, hb⟩ | ⟨he, hm, hb⟩ | ⟨he, hm, hb⟩ | ⟨he, m, hm, hmantissa, hb⟩
  · exact absurd hnan h
  · rw [hb, he, hm]
    rfl
  · rw [hb, he, hm]
    rfl
  · have hpack := pack_subnormal s hm hlt
    rw [BitVec.ofNat_toNat, BitVec.setWidth_eq] at hpack
    rw [hb, he]
    exact hpack
  · have hk : (@unpackExponent Format.binary64 b).toNat < 2047 := by
      have hle : (@unpackExponent Format.binary64 b).toNat < 2 ^ 11 := BitVec.isLt _
      have hne : (@unpackExponent Format.binary64 b).toNat ≠ 2047 := fun heq =>
        he (BitVec.eq_of_toNat_eq heq)
      omega
    -- the leading bit is the one that is cut off again
    have hcut : BitVec.ofNat 52 m = @unpackMantissa Format.binary64 b := by
      apply BitVec.eq_of_toNat_eq
      rw [BitVec.toNat_ofNat]
      omega
    rw [hb, ← hcut]
    exact (pack_normal s hm (by omega) (by omega) hk).trans
      (by rw [BitVec.ofNat_toNat, BitVec.setWidth_eq])

theorem infiniteBits_eq : infiniteBits = 2047 * 2 ^ 52 := by
  rw [infiniteBits, Nat.pow_eq]

/-- Without the sign, the bits that stand for no number are those above infinity. -/
theorem isNaN_iff {b : BitVec 64} : IsNaN b ↔ infiniteBits < b.toNat % 2 ^ 63 := by
  have hexponent : @unpackExponent Format.binary64 b = -1#11 ↔
      b.toNat / 2 ^ 52 % 2 ^ 11 = 2047 := by
    rw [← toNat_unpackExponent]
    exact ⟨fun h => congrArg BitVec.toNat h, fun h => BitVec.eq_of_toNat_eq h⟩
  have hmantissa : @unpackMantissa Format.binary64 b = 0#52 ↔ b.toNat % 2 ^ 52 = 0 := by
    rw [← toNat_unpackMantissa]
    exact ⟨fun h => congrArg BitVec.toNat h, fun h => BitVec.eq_of_toNat_eq h⟩
  have hbits := infiniteBits_eq
  rw [IsNaN, hexponent, Ne, hmantissa, hbits]
  omega

/-- A sign is the topmost bit. -/
theorem toNat_pack_withSign (s : Sign) {b : BitVec 64} (h : b.toNat % 2 ^ 63 ≤ infiniteBits) :
    (UnpackedFloat.pack Format.binary64
      (withSign s (UnpackedFloat.unpack Format.binary64 b))).toNat =
        s.toBitVec.toNat * 2 ^ 63 + b.toNat % 2 ^ 63 := by
  rw [pack_withSign s (fun hnan => absurd (isNaN_iff.mp hnan) (Nat.not_lt.mpr h)),
    toNat_packComponents, toNat_unpackExponent, toNat_unpackMantissa]
  omega

/-- Without the topmost bit the sign is positive. -/
theorem signOf_positive {b : BitVec 64} (h : b.toNat < 2 ^ 63) : signOf b = .positive := by
  have hsign : @unpackSign Format.binary64 b = 0#1 := by
    apply BitVec.eq_of_toNat_eq
    rw [toNat_unpackSign]
    exact Nat.div_eq_of_lt h
  rw [signOf, hsign]
  rfl

/-- What bits stand for has the sign of the bits. A zero has a sign as well. -/
theorem unpack_withSign (b : BitVec 64) :
    withSign (signOf b) (UnpackedFloat.unpack Format.binary64 b) =
      UnpackedFloat.unpack Format.binary64 b := by
  rcases unpack_cases b with
    hnan | ⟨-, -, hb⟩ | ⟨-, -, hb⟩ | ⟨-, _, hb⟩ | ⟨-, _, _, -, hb⟩
  · rw [unpack_of_isNaN hnan]
    rfl
  all_goals
    rw [hb]
    rfl

theorem neg_withSign (s : Sign) (x : UnpackedFloat) :
    (withSign s x).neg = withSign (-s) x := by
  cases x <;> rfl

theorem abs_unpack (b : BitVec 64) :
    (UnpackedFloat.unpack Format.binary64 b).abs =
      withSign .positive (UnpackedFloat.unpack Format.binary64 b) := by
  cases UnpackedFloat.unpack Format.binary64 b <;> rfl

/-! ### Doubles by their bits -/

/-- A double as a number, by which all its bits are given. Statements about bits become statements
about numbers, which arithmetic can settle. -/
def code (x : Float) : Nat := x.toBits.toNat

theorem code_injective : Function.Injective code := by
  rintro ⟨⟨b, hb⟩⟩ ⟨⟨c, hc⟩⟩ h
  obtain rfl : b = c := UInt64.toNat_inj.mp h
  rfl

/-- Bits up to infinity are kept as they are. -/
theorem code_ofBits {n : Nat} (h : n ≤ infiniteBits) :
    code (Float.ofBits (UInt64.ofNat n)) = n := by
  have hbits := infiniteBits_eq
  have hn : (UInt64.ofNat n).toBitVec.toNat = n := by
    rw [UInt64.toBitVec_ofNat', BitVec.toNat_ofNat]
    exact Nat.mod_eq_of_lt (by omega)
  change (UnpackedFloat.pack Format.binary64
    (UnpackedFloat.unpack Format.binary64 (UInt64.ofNat n).toBitVec)).toNat = n
  rw [← unpack_withSign, signOf_positive (by omega), toNat_pack_withSign _ (by omega), hn]
  change 0 * 2 ^ 63 + n % 2 ^ 63 = n
  omega

/-- The absolute value takes away the sign bit. -/
theorem code_abs {x : Float} (h : code x % 2 ^ 63 ≤ infiniteBits) :
    code x.abs = code x % 2 ^ 63 := by
  change (UnpackedFloat.pack Format.binary64
    (UnpackedFloat.unpack Format.binary64 x.toBits.toBitVec).abs).toNat = _
  rw [abs_unpack, toNat_pack_withSign _ h]
  change 0 * 2 ^ 63 + code x % 2 ^ 63 = code x % 2 ^ 63
  omega

/-- The opposite number of a positive one has the sign bit set. -/
theorem code_neg {x : Float} (h : code x ≤ infiniteBits) : code (-x) = 2 ^ 63 + code x := by
  have hbits := infiniteBits_eq
  change (UnpackedFloat.pack Format.binary64
    (UnpackedFloat.unpack Format.binary64 x.toBits.toBitVec).neg).toNat = _
  have hpositive : signOf x.toBits.toBitVec = .positive :=
    signOf_positive (show code x < 2 ^ 63 by omega)
  rw [← unpack_withSign, neg_withSign, hpositive,
    toNat_pack_withSign _ (show code x % 2 ^ 63 ≤ _ by omega)]
  change 1 * 2 ^ 63 + code x % 2 ^ 63 = 2 ^ 63 + code x
  omega

/-- A double that is a number has bits up to infinity, but for the sign. -/
theorem isNaN_eq_false {x : Float} (h : x.isNaN = false) : code x % 2 ^ 63 ≤ infiniteBits := by
  by_contra hlt
  have hnan : IsNaN x.toBits.toBitVec :=
    isNaN_iff.mpr (show infiniteBits < code x % 2 ^ 63 from Nat.not_le.mp hlt)
  have hnot : (UnpackedFloat.unpack Format.binary64 x.toBits.toBitVec).isNaN = false := h
  rw [unpack_of_isNaN hnan] at hnot
  cases hnot

end ChartNet.Decimal

import ChartNet.Expr.Eval
import ChartNet.Proofs.Doubles

/-!
# The order of doubles

Doubles are compared by what they stand for (`compareFloats?_eq`), and two of them have an order
unless one is not a number (`isNone_compareFloats?`). A whole number always stands for a number
(`isNaN_ofInt`): it is rounded, maybe to an infinity, but rounding does not lose it.
-/

namespace ChartNet.Decimal

open Float.Model UnpackedFloat

/-! ### Comparing -/

theorem isNone_compare (x y : UnpackedFloat) :
    (x.compare y).isNone = (x.isNaN || y.isNaN) := by
  rcases x with (_ | _) | _ | (_ | _) | ⟨_ | _, m, e, hm⟩ <;>
    rcases y with (_ | _) | _ | (_ | _) | ⟨_ | _, m', e', hm'⟩ <;> rfl

/-- Numbers of one sign are compared by their exponents first. -/
theorem swap_compare_then (m m' : Nat) (e e' : Int) :
    (compare e' e).then (compare m' m) = ((compare e e').then (compare m m')).swap := by
  rw [Ordering.swap_then, ← Std.OrientedOrd.eq_swap, ← Std.OrientedOrd.eq_swap]

/-- Comparing the other way round gives the opposite result. -/
theorem swap_compare (x y : UnpackedFloat) : y.compare x = (x.compare y).map Ordering.swap := by
  rcases x with (_ | _) | _ | (_ | _) | ⟨_ | _, m, e, hm⟩ <;>
    rcases y with (_ | _) | _ | (_ | _) | ⟨_ | _, m', e', hm'⟩
  case finite.negative.finite.negative =>
    exact congrArg (fun o => some (Ordering.swap o)) (swap_compare_then m m' e e')
  case finite.positive.finite.positive => exact congrArg some (swap_compare_then m m' e e')
  all_goals rfl

/-- What a double stands for: a sign, a mantissa and an exponent, an infinity, or nothing. -/
def unpacked (x : Float) : UnpackedFloat := x.toModel.unpack

theorem lt_iff_compare {x y : Float} :
    x < y ↔ (unpacked x).compare (unpacked y) = some .lt := by
  change decide (((unpacked x).compare (unpacked y) == some .lt) = true) = true ↔ _
  simp

/-- Doubles are equal if what they stand for is. Zero with either sign is the same. -/
theorem beq_iff_compare {x y : Float} :
    (x == y) = true ↔ (unpacked x).compare (unpacked y) = some .eq := by
  change ((unpacked x).compare (unpacked y) == some .eq) = true ↔ _
  simp

/-- **Doubles are compared** by what they stand for. Two tests on doubles, one for less and one for
equal, are made into one comparison. -/
theorem compareFloats?_eq (x y : Float) :
    compareFloats? x y = (unpacked x).compare (unpacked y) := by
  have hswap := swap_compare (unpacked x) (unpacked y)
  rw [compareFloats?]
  simp only [lt_iff_compare, beq_iff_compare, hswap]
  rcases (unpacked x).compare (unpacked y) with _ | _ | _ | _ <;> rfl

theorem isNone_compareFloats? (x y : Float) :
    (compareFloats? x y).isNone = (x.isNaN || y.isNaN) := by
  rw [compareFloats?_eq]
  exact isNone_compare (unpacked x) (unpacked y)

/-! ### Whole numbers -/

theorem isNaN_dite {p : Prop} [Decidable p] {f : p → UnpackedFloat} {g : ¬ p → UnpackedFloat}
    (hf : ∀ h, (f h).isNaN = false) (hg : ∀ h, (g h).isNaN = false) :
    (dite p f g).isNaN = false := by
  split
  · exact hf _
  · exact hg _

theorem isNaN_ite {p : Prop} [Decidable p] {x y : UnpackedFloat} (hx : x.isNaN = false)
    (hy : y.isNaN = false) : (ite p x y).isNaN = false := by
  split
  · exact hx
  · exact hy

theorem isNaN_roundWithAccuracy (spec : Format) (s : Sign) (m : Nat) (e : Int) (a : Accuracy) :
    (roundWithAccuracy spec s m e a).isNaN = false :=
  isNaN_dite (fun _ => rfl) (fun _ => rfl)

/-- A product with a number that is neither zero nor infinite is a number. -/
theorem isNaN_mul {spec : Format} {x : UnpackedFloat} (hx : x.isNaN = false) (s : Sign) {m : Nat}
    (e : Int) (hm : 0 < m) : (UnpackedFloat.mul spec x (.finite s m e hm)).isNaN = false := by
  cases x with
  | infinity s' => rfl
  | notANumber => cases hx
  | zero s' => rfl
  | finite s' m' e' hm' => exact isNaN_roundWithAccuracy spec _ _ _ _

theorem isNaN_round (spec : Format) (s : Sign) (m : Nat) (e : Int) :
    (UnpackedFloat.round spec s m e).isNaN = false := isNaN_roundWithAccuracy spec _ _ _ _

/-- Rounding a number given by sign, mantissa and exponent gives a number. -/
theorem isNaN_normalize (spec : Format) (m e : Int) (s : Sign) :
    (UnpackedFloat.normalize spec m e s).isNaN = false := by
  delta UnpackedFloat.normalize
  cases compare m 0 with
  | lt => exact isNaN_round spec _ _ _
  | eq => rfl
  | gt => exact isNaN_round spec _ _ _

theorem isNaN_ofScientific (spec : Format) (m : Nat) (e : Int) :
    (UnpackedFloat.ofScientific spec m e).isNaN = false := by
  refine isNaN_dite (fun _ => rfl) fun _ => isNaN_ite rfl (isNaN_ite rfl (isNaN_ite ?_ ?_))
  · exact isNaN_mul rfl _ _ _
  · exact isNaN_roundWithAccuracy spec _ _ _ _

/-- Bits that are those of a number stand for one. -/
theorem isNaN_unpack {b : BitVec 64} (h : ¬ IsNaN b) :
    (UnpackedFloat.unpack Format.binary64 b).isNaN = false := by
  rcases unpack_cases b with
    hnan | ⟨-, -, hb⟩ | ⟨-, -, hb⟩ | ⟨-, _, hb⟩ | ⟨-, _, _, -, hb⟩
  · exact absurd hnan h
  all_goals
    rw [hb]
    rfl

/-- Bits are those of a number if their exponent is not the largest one. -/
theorem not_isNaN_packComponents (s : Sign) {e : BitVec 11} (he : e.toNat < 2047)
    (m : BitVec 52) : ¬ IsNaN (packComponents Format.binary64 s e m) := by
  have hm := m.isLt
  have hbits := infiniteBits_eq
  rw [isNaN_iff, toNat_packComponents]
  omega

theorem not_isNaN_packedInfinity (s : Sign) : ¬ IsNaN (packedInfinity Format.binary64 s) := by
  rw [isNaN_iff]
  cases s <;> decide

/-- The bits of a number are those of a number, whether it is a zero, an infinity or has a
mantissa. -/
theorem isNaN_pack {x : UnpackedFloat} (h : x.isNaN = false) :
    (UnpackedFloat.unpack Format.binary64
      (UnpackedFloat.pack Format.binary64 x)).isNaN = false := by
  apply isNaN_unpack
  cases x with
  | infinity s => exact not_isNaN_packedInfinity s
  | notANumber => cases h
  | zero s => exact not_isNaN_packComponents s (by decide) 0
  | finite s m e hm =>
    change ¬ IsNaN (if 2 ^ 11 ≤ (e + 1023 + 52).toNat + 1 then packedInfinity Format.binary64 s else
      if m.log2 + 1 = 53 then packComponents Format.binary64 s
        (BitVec.ofNat 11 (e + 1023 + 52).toNat) (BitVec.ofNat 52 m) else
      packComponents Format.binary64 s 0#11 (BitVec.ofNat 52 m))
    split_ifs with hlarge hlog
    · exact not_isNaN_packedInfinity s
    · refine not_isNaN_packComponents s ?_ _
      rw [BitVec.toNat_ofNat]
      omega
    · exact not_isNaN_packComponents s (by decide) _

theorem isNaN_neg {x : UnpackedFloat} (h : x.isNaN = false) : x.neg.isNaN = false := by
  cases x with
  | notANumber => cases h
  | infinity s | zero s | finite s m e hm => rfl

/-- A natural number stands for a number. -/
theorem isNaN_ofNat (n : Nat) : (Float.ofNat n).isNaN = false := by
  by_cases h : n < 2 ^ 53 ∧ 0 ≤ 22
  · -- the number is rounded and then multiplied by one
    have hproduct : Float.ofNat n = n.toUInt64.toFloat * Float.ofBits 4607182418800017408 :=
      dif_pos h
    have hone : unpacked (Float.ofBits 4607182418800017408) =
      .finite .positive (2 ^ 52) (-52) (by decide) := rfl
    have hrounded : (unpacked n.toUInt64.toFloat).isNaN = false :=
      isNaN_pack (isNaN_normalize Format.binary64 _ _ _)
    rw [hproduct]
    refine @isNaN_pack (UnpackedFloat.mul Format.binary64 (unpacked n.toUInt64.toFloat)
      (unpacked (Float.ofBits 4607182418800017408))) ?_
    rw [hone]
    exact isNaN_mul hrounded _ _ _
  · have hrounded : Float.ofNat n = ⟨Float.Model.ofScientific n 0⟩ := dif_neg h
    rw [hrounded]
    exact isNaN_pack (isNaN_ofScientific Format.binary64 n 0)

/-- **A whole number stands for a number.** So two whole numbers can always be compared as doubles,
although what is compared are the numbers after rounding. -/
theorem isNaN_ofInt (n : Int) : (Float.ofInt n).isNaN = false := by
  cases n with
  | ofNat n => exact isNaN_ofNat n
  | negSucc n =>
    refine isNaN_pack ?_
    exact isNaN_neg (isNaN_ofNat (n + 1))

end ChartNet.Decimal

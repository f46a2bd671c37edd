import ChartNet.Proofs.FloatOrder
import ChartNet.Proofs.Rounding

/-!
# Whole numbers as doubles

A whole number of 64 bits that is turned into a double keeps its first 53 binary digits, and a half
goes to the even neighbour (`rounded`, `nearest`). Numbers that are turned into doubles are
therefore compared after rounding (`compareFloats?_ofInt`). Rounding keeps the order
(`nearest_mono`) but may bring numbers together; up to `2 ^ 53` it changes nothing
(`nearest_of_le`).

`Stands` relates a double to the whole number that it is. A double of this kind has all 53 digits in
its mantissa (`Spells`), so that the comparison of doubles, which looks at exponents first, is the
order of numbers.
-/

namespace ChartNet.Decimal

open Float.Model UnpackedFloat

/-! ### Rounding whole numbers -/

theorem roundEven_le (num den : Nat) : roundEven num den ≤ num / den + 1 := by
  rw [roundEven]
  split_ifs <;> omega

/-- Rounding keeps the order. -/
theorem roundEven_mono {num num' : Nat} (den : Nat) (h : num ≤ num') :
    roundEven num den ≤ roundEven num' den := by
  have hdiv : num / den ≤ num' / den := Nat.div_le_div_right h
  rcases Nat.lt_or_eq_of_le hdiv with hlt | heq
  · exact (roundEven_le num den).trans (hlt.trans_le (le_roundEven num' den))
  · -- the whole parts are equal, so that the larger rest decides
    have hrest : num % den ≤ num' % den := by
      have hnum := Nat.div_add_mod num den
      have hnum' := Nat.div_add_mod num' den
      rw [heq] at hnum
      omega
    simp only [roundEven, heq, Bool.or_eq_true, Bool.and_eq_true, decide_eq_true_eq, beq_iff_eq]
    split_ifs <;> omega

theorem roundEven_mul_of_dvd {n d : Nat} (hd : 0 < d) (h : d ∣ n) : roundEven n d * d = n := by
  obtain ⟨m, rfl⟩ := h
  rw [Nat.mul_comm d m, roundEven_exact m hd]

/-- The value of the last of the 53 binary digits that a double has for a number of this size. -/
def place (n : Nat) : Nat := 2 ^ (n.log2 - 52)

/-- The whole number that a double has in the place of `n`: 53 binary digits are kept, a half goes
to the even neighbour. -/
def rounded (n : Nat) : Nat := roundEven n (place n) * place n

/-- Up to `2 ^ 53` there is a double for each whole number. -/
theorem rounded_of_le {n : Nat} (h : n ≤ 2 ^ 53) : rounded n = n := by
  refine roundEven_mul_of_dvd (Nat.two_pow_pos _) ?_
  rcases Nat.lt_or_eq_of_le h with hlt | rfl
  · have hlog : n.log2 - 52 = 0 := by
      by_cases hzero : n = 0
      · simp [hzero]
      · have := (Nat.log2_lt hzero).mpr hlt
        omega
    simp [place, hlog]
  · rw [place, Nat.log2_two_pow]
    decide

/-- Rounding stays between the powers of two around the number. It may reach the upper one, and then
there is a binary digit more. -/
theorem rounded_bounds {n : Nat} (h : n ≠ 0) :
    2 ^ n.log2 ≤ rounded n ∧ rounded n ≤ 2 ^ (n.log2 + 1) := by
  have hpos : 0 < place n := Nat.two_pow_pos _
  have hsplit : 2 ^ (n.log2 - (n.log2 - 52)) * place n = 2 ^ n.log2 := by
    rw [place, ← Nat.pow_add, Nat.sub_add_cancel (Nat.sub_le _ _)]
  generalize 2 ^ (n.log2 - (n.log2 - 52)) = q at hsplit
  have hlow : q ≤ n / place n := by
    rw [Nat.le_div_iff_mul_le hpos, hsplit]
    exact Nat.log2_self_le h
  have hhigh : n / place n < 2 * q := by
    rw [Nat.div_lt_iff_lt_mul hpos, Nat.mul_assoc, hsplit, Nat.mul_comm, ← Nat.pow_succ]
    exact Nat.lt_log2_self
  constructor
  · rw [← hsplit]
    exact Nat.mul_le_mul_right _ (hlow.trans (le_roundEven n (place n)))
  · rw [Nat.pow_succ, ← hsplit, Nat.mul_comm, ← Nat.mul_assoc]
    exact Nat.mul_le_mul_right _ ((roundEven_le n (place n)).trans hhigh)

/-- Rounding to 53 binary digits keeps the order, also where the numbers have different lengths. -/
theorem rounded_mono {m n : Nat} (h : m ≤ n) : rounded m ≤ rounded n := by
  by_cases hm : m = 0
  · have hzero : rounded 0 = 0 := rounded_of_le (Nat.zero_le _)
    rw [hm, hzero]
    exact Nat.zero_le _
  have hn : n ≠ 0 := by omega
  have hlog : m.log2 ≤ n.log2 := (Nat.le_log2 hn).mpr ((Nat.log2_self_le hm).trans h)
  rcases Nat.lt_or_eq_of_le hlog with hlt | heq
  · calc rounded m ≤ 2 ^ (m.log2 + 1) := (rounded_bounds hm).2
      _ ≤ 2 ^ n.log2 := Nat.pow_le_pow_right (by decide) hlt
      _ ≤ rounded n := (rounded_bounds hn).1
  · have hplace : place m = place n := by rw [place, place, heq]
    rw [rounded, rounded, hplace]
    exact Nat.mul_le_mul_right _ (roundEven_mono _ h)

/-! ### Mantissas -/

/-- A mantissa with the two bits after it is what is known of a fraction: its whole part, whether
the rest is at least a half, and whether it is neither nothing nor a half. -/
structure Keeps (em : ExtendedMantissa) (num den : Nat) : Prop where
  /-- the digits that are kept -/
  mantissa : em.mantissa = num / den
  /-- what is cut off is at least a half -/
  roundBit : em.roundBit = true ↔ den ≤ 2 * (num % den)
  /-- what is cut off is neither nothing nor just a half -/
  stickyBit : em.stickyBit = true ↔ 2 * (num % den) ≠ 0 ∧ 2 * (num % den) ≠ den

theorem keeps_exact (m : Nat) : Keeps (.ofMantissaAndAccuracy m .exact) m 1 where
  mantissa := (Nat.div_one m).symm
  roundBit := ⟨nofun, by omega⟩
  stickyBit := ⟨nofun, by omega⟩

/-- One more digit is cut off. The round bit and the sticky bit take up what was cut off before. -/
theorem Keeps.shiftRightOne {em : ExtendedMantissa} {num den : Nat} (h : Keeps em num den)
    (hden : 0 < den) : Keeps em.shiftRightOne num (2 * den) := by
  have hrest : num % (2 * den) = num % den + den * (num / den % 2) := by
    rw [Nat.mul_comm, Nat.mod_mul]
  have hlt : num % den < den := Nat.mod_lt num hden
  have hbit : num / den % 2 = 0 ∨ num / den % 2 = 1 := Nat.mod_two_eq_zero_or_one _
  constructor
  · change em.mantissa / 2 = _
    rw [h.mantissa, Nat.div_div_eq_div_mul, Nat.mul_comm]
  · change (em.mantissa % 2 != 0) = true ↔ _
    rw [bne_iff_ne, h.mantissa, hrest]
    rcases hbit with hbit | hbit <;> simp only [hbit] <;> omega
  · change (em.roundBit || em.stickyBit) = true ↔ _
    rw [Bool.or_eq_true, h.roundBit, h.stickyBit, hrest]
    rcases hbit with hbit | hbit <;> simp only [hbit] <;> omega

/-- The same for any number of digits. -/
theorem Keeps.shiftRight {em : ExtendedMantissa} {num : Nat} (h : Keeps em num 1) (k : Nat) :
    Keeps (em >>> k) num (2 ^ k) := by
  induction k with
  | zero => exact h
  | succ k ih =>
    rw [Nat.pow_succ, Nat.mul_comm]
    exact ih.shiftRightOne (Nat.two_pow_pos k)

/-- The two bits are enough to round: a half is the only case in which the even neighbour is asked
for, and the bits tell whether it is one. -/
theorem Keeps.roundedMantissa {em : ExtendedMantissa} {num den : Nat} (h : Keeps em num den)
    (hden : 0 < den) : em.roundedMantissa = roundEven num den := by
  obtain ⟨m, r, s⟩ := em
  obtain ⟨hmantissa, hround, hsticky⟩ := h
  obtain rfl : m = num / den := hmantissa
  have hlt : num % den < den := Nat.mod_lt num hden
  simp only [roundEven, Bool.or_eq_true, Bool.and_eq_true, decide_eq_true_eq, beq_iff_eq]
  rcases r with _ | _ <;> rcases s with _ | _ <;>
    simp only [Bool.false_eq_true, false_iff, true_iff] at hround hsticky
  · change num / den = _
    rw [if_pos (by omega)]
  · change num / den = _
    rw [if_pos (by omega)]
  · change num / den + num / den % 2 = _
    split_ifs <;> omega
  · change num / den + 1 = _
    rw [if_neg (by omega)]

/-- A number with more than 53 digits is shifted until 53 are left. -/
theorem shiftToTargetExponent_eq {m k : Nat} {e : Int} (hlog : m.log2 = k + 52)
    (he : -1074 ≤ e + k) :
    shiftToTargetExponent Format.binary64 m e .exact =
      (ExtendedMantissa.ofMantissaAndAccuracy m .exact >>> k, e + k) := by
  have hshift : (max ((m.log2 : Int) + 1 + e - 53) (-1074) - e).toNat = k := by omega
  have hdef : shiftToTargetExponent Format.binary64 m e .exact =
    (ExtendedMantissa.ofMantissaAndAccuracy m .exact >>>
      (max ((m.log2 : Int) + 1 + e - 53) (-1074) - e).toNat,
        e + ((max ((m.log2 : Int) + 1 + e - 53) (-1074) - e).toNat : Int)) := rfl
  rw [hdef, hshift]

/-- Of a number with more than 53 digits the first 53 are left if the others are cut off. -/
theorem div_two_pow_bounds {m k : Nat} (hlog : m.log2 = k + 52) :
    2 ^ 52 ≤ m / 2 ^ k ∧ m / 2 ^ k < 2 ^ 53 := by
  have hm : m ≠ 0 := by
    rintro rfl
    simp at hlog
  obtain ⟨hlow, hhigh⟩ := (Nat.log2_eq_iff hm).mp hlog
  rw [Nat.le_div_iff_mul_le (Nat.two_pow_pos k), Nat.div_lt_iff_lt_mul (Nat.two_pow_pos k),
    ← Nat.pow_add, ← Nat.pow_add, Nat.add_comm 52, Nat.add_comm 53]
  exact ⟨hlow, hhigh⟩

theorem finite_congr {s : Sign} {m m' : Nat} {e e' : Int} (hm : 0 < m) (hm' : 0 < m')
    (h : m = m') (he : e = e') : UnpackedFloat.finite s m e hm = .finite s m' e' hm' := by
  subst h he
  rfl

/-- **Rounding** gives a mantissa of 53 digits. The `k` digits after them are cut off; if they are
rounded up and the others are all ones, a digit comes in front, and a zero at the end is cut off
too. -/
theorem roundWithAccuracy_eq (s : Sign) {m k : Nat} {e : Int} (hlog : m.log2 = k + 52)
    (he : -1074 ≤ e + k) :
    ∃ (r j : Nat) (hr : 0 < r), 2 ^ 52 ≤ r ∧ r < 2 ^ 53 ∧ k ≤ j ∧ j ≤ k + 1 ∧
      r * 2 ^ j = roundEven m (2 ^ k) * 2 ^ k ∧
      roundWithAccuracy Format.binary64 s m e .exact = .finite s r (e + j) hr := by
  obtain ⟨hlow, hhigh⟩ := div_two_pow_bounds hlog
  have hround := ((keeps_exact m).shiftRight k).roundedMantissa (Nat.two_pow_pos k)
  have hle := le_roundEven m (2 ^ k)
  have hge := roundEven_le m (2 ^ k)
  generalize roundEven m (2 ^ k) = q at hround hle hge
  -- `q` has 53 digits, or it is `2 ^ 53`: then all digits were ones, and there is one digit more
  obtain ⟨i, hi, hqlog, hdvd⟩ : ∃ i ≤ 1, q.log2 = i + 52 ∧ 2 ^ i ∣ q := by
    rcases Nat.lt_or_eq_of_le (show q ≤ 2 ^ 53 by omega) with hlt | rfl
    · exact ⟨0, by omega, (Nat.log2_eq_iff (by omega)).mpr ⟨by omega, hlt⟩, one_dvd q⟩
    · exact ⟨1, le_rfl, Nat.log2_two_pow, by decide⟩
  obtain ⟨hrlow, hrhigh⟩ := div_two_pow_bounds hqlog
  have hr : q / 2 ^ i ≠ 0 := by omega
  refine ⟨q / 2 ^ i, k + i, Nat.pos_of_ne_zero hr, hrlow, hrhigh, by omega, by omega, ?_, ?_⟩
  · rw [Nat.add_comm, Nat.pow_add, ← Nat.mul_assoc, Nat.div_mul_cancel hdvd]
  · have hdef : roundWithAccuracy Format.binary64 s m e .exact =
        let a := shiftToTargetExponent Format.binary64 m e .exact
        let b := shiftToTargetExponent Format.binary64 a.1.roundedMantissa a.2 .exact
        if h : b.1.mantissa = 0 then .zero s
        else .finite s b.1.mantissa b.2 (Nat.pos_of_ne_zero h) := rfl
    have hmantissa := ((keeps_exact q).shiftRight i).mantissa
    rw [hdef, shiftToTargetExponent_eq hlog he]
    dsimp only
    rw [hround, shiftToTargetExponent_eq hqlog (by omega)]
    dsimp only
    rw [dif_neg (hmantissa ▸ hr)]
    exact finite_congr _ _ hmantissa (by omega)

/-! ### Whole numbers among the doubles -/

/-- The mantissa `m` has 53 digits, and with the exponent `k - 52` it makes up the number `n`. -/
structure Spells (m k n : Nat) : Prop where
  /-- the mantissa has its leading one -/
  low : 2 ^ 52 ≤ m
  /-- it has 53 digits -/
  high : m < 2 ^ 53
  /-- the exponent is that of a double -/
  place : k ≤ 1023
  /-- together they make up the number -/
  value : m * 2 ^ k = n * 2 ^ 52

/-- The unpacked number is the whole number `n`. With all digits in the mantissa, there is one such
number for each that can be stood for at all, but for the sign of zero. -/
inductive Stands : UnpackedFloat → Int → Prop
  /-- zero, with either sign -/
  | zero (s : Sign) : Stands (.zero s) 0
  /-- a positive number -/
  | positive {m k n : Nat} (hm : 0 < m) (h : Spells m k n) :
      Stands (.finite .positive m (k - 52) hm) n
  /-- a negative number -/
  | negative {m k n : Nat} (hm : 0 < m) (h : Spells m k n) :
      Stands (.finite .negative m (k - 52) hm) (-n)

theorem signOf_packComponents (s : Sign) (e : BitVec 11) (m : BitVec 52) :
    signOf (packComponents Format.binary64 s e m) = s := by
  have hbit : @unpackSign Format.binary64 (packComponents Format.binary64 s e m) = s.toBitVec := by
    have he := e.isLt
    have hm := m.isLt
    apply BitVec.eq_of_toNat_eq
    rw [toNat_unpackSign, toNat_packComponents]
    omega
  rw [signOf, hbit]
  cases s <;> rfl

/-- Nothing is lost when a number with all 53 digits is put into bits. The leading digit is not
stored, but it comes back because the exponent is not the smallest one. -/
theorem unpack_pack_normal (s : Sign) {m k : Nat} (hm : 0 < m) (hlow : 2 ^ 52 ≤ m)
    (hhigh : m < 2 ^ 53) (hpos : 0 < k) (hk : k < 2047) :
    UnpackedFloat.unpack Format.binary64
        (UnpackedFloat.pack Format.binary64 (.finite s m (k - 1075) hm)) =
      .finite s m (k - 1075) hm := by
  rw [pack_normal s hm hlow hhigh hk]
  have hsign := signOf_packComponents s (BitVec.ofNat 11 k) (BitVec.ofNat 52 m)
  have hexponent : @unpackExponent Format.binary64 (packComponents Format.binary64 s
      (BitVec.ofNat 11 k) (BitVec.ofNat 52 m)) = BitVec.ofNat 11 k := unpackExponent_packComponents
  have hmantissa : @unpackMantissa Format.binary64 (packComponents Format.binary64 s
      (BitVec.ofNat 11 k) (BitVec.ofNat 52 m)) = BitVec.ofNat 52 m := unpackMantissa_packComponents
  have hexp : (BitVec.ofNat 11 k).toNat = k := by
    rw [BitVec.toNat_ofNat]
    omega
  have hman : (BitVec.ofNat 52 m).toNat = m - 2 ^ 52 := by
    rw [BitVec.toNat_ofNat]
    omega
  have hzero : BitVec.ofNat 11 k ≠ 0#11 := by
    intro h
    rw [h] at hexp
    change 0 = k at hexp
    omega
  have hlast : BitVec.ofNat 11 k ≠ -1#11 := by
    intro h
    rw [h] at hexp
    change 2047 = k at hexp
    omega
  -- the exponent field is neither the first nor the last one, which leaves the normal case
  rcases unpack_cases (packComponents Format.binary64 s (BitVec.ofNat 11 k) (BitVec.ofNat 52 m))
    with ⟨he, -⟩ | ⟨he, -⟩ | ⟨he, -⟩ | ⟨he, -⟩ | ⟨-, m', hm', hvalue, hunpack⟩
  · exact absurd (hexponent.symm.trans he) hlast
  · exact absurd (hexponent.symm.trans he) hlast
  · exact absurd (hexponent.symm.trans he) hzero
  · exact absurd (hexponent.symm.trans he) hzero
  · have hm'eq : m' = m := by
      rw [hvalue, hmantissa, hman]
      omega
    subst hm'eq
    rw [hunpack, hsign, hexponent, hexp]

/-- A number that is spelled out in full is kept by its bits. -/
theorem Spells.unpack_pack {m k n : Nat} (h : Spells m k n) (hm : 0 < m) (s : Sign) :
    UnpackedFloat.unpack Format.binary64
        (UnpackedFloat.pack Format.binary64 (.finite s m (k - 52) hm)) =
      .finite s m (k - 52) hm := by
  have hplace := h.place
  have hbiased : (k : Int) - 52 = ((k + 1023 : Nat) : Int) - 1075 := by omega
  rw [hbiased]
  exact unpack_pack_normal s hm h.low h.high (by omega) (by omega)

theorem Spells.pos {m k n : Nat} (h : Spells m k n) : 0 < n := by
  have hlow := h.low
  have hpos : 0 < n * 2 ^ 52 := h.value ▸ Nat.mul_pos (by omega) (Nat.two_pow_pos k)
  exact Nat.pos_of_mul_pos_right hpos

/-- A number below `2 ^ 53` has no digits beyond those of the mantissa. -/
theorem Spells.place_lt {m k n : Nat} (h : Spells m k n) (hn : n < 2 ^ 53) : k < 53 := by
  refine (Nat.pow_lt_pow_iff_right (a := 2) (by decide)).mp ?_
  refine Nat.lt_of_mul_lt_mul_left (a := 2 ^ 52) ?_
  calc 2 ^ 52 * 2 ^ k ≤ m * 2 ^ k := Nat.mul_le_mul_right _ h.low
    _ = 2 ^ 52 * n := by rw [h.value, Nat.mul_comm]
    _ < 2 ^ 52 * 2 ^ 53 := Nat.mul_lt_mul_of_pos_left hn (Nat.two_pow_pos 52)

/-- A number with a larger exponent is larger. -/
theorem Spells.lt {m k n m' k' n' : Nat} (h : Spells m k n) (h' : Spells m' k' n') (hlt : k < k') :
    n < n' := by
  refine Nat.lt_of_mul_lt_mul_right (a := 2 ^ 52) ?_
  calc n * 2 ^ 52 = m * 2 ^ k := h.value.symm
    _ < 2 ^ 53 * 2 ^ k := Nat.mul_lt_mul_of_pos_right h.high (Nat.two_pow_pos k)
    _ = 2 ^ 52 * 2 ^ (k + 1) := by ring
    _ ≤ m' * 2 ^ k' := Nat.mul_le_mul h'.low (Nat.pow_le_pow_right (by decide) hlt)
    _ = n' * 2 ^ 52 := h'.value

theorem compare_eq_compare {α β : Type} [LinearOrder α] [LinearOrder β] {a a' : α} {b b' : β}
    (hlt : a < a' ↔ b < b') (hgt : a' < a ↔ b' < b) : compare a a' = compare b b' := by
  rcases lt_trichotomy a a' with h | rfl | h
  · rw [compare_lt_iff_lt.mpr h, compare_lt_iff_lt.mpr (hlt.mp h)]
  · have heq : b = b' :=
      le_antisymm (not_lt.mp (mt hgt.mpr (lt_irrefl a))) (not_lt.mp (mt hlt.mpr (lt_irrefl a)))
    rw [compare_eq_iff_eq.mpr rfl, compare_eq_iff_eq.mpr heq]
  · rw [compare_gt_iff_gt.mpr h, compare_gt_iff_gt.mpr (hgt.mp h)]

/-- Numbers of one sign are compared by their exponents first. With all 53 digits in the mantissas
this is the order of what they stand for. -/
theorem Spells.compare {m k n m' k' n' : Nat} (h : Spells m k n) (h' : Spells m' k' n') :
    (compare ((k : Int) - 52) (k' - 52)).then (compare m m') = compare (n : Int) n' := by
  rcases Nat.lt_trichotomy k k' with hlt | rfl | hgt
  · rw [compare_lt_iff_lt.mpr (show (k : Int) - 52 < k' - 52 by omega),
      compare_lt_iff_lt.mpr (Int.ofNat_lt.mpr (h.lt h' hlt))]
    rfl
  · -- with one exponent both mantissas count the same unit
    have hscale : ∀ a b : Nat, a * 2 ^ k < b * 2 ^ k ↔ a < b := fun a b =>
      Nat.mul_lt_mul_right (Nat.two_pow_pos k)
    have hunit : ∀ a b : Nat, a * 2 ^ 52 < b * 2 ^ 52 ↔ a < b := fun a b =>
      Nat.mul_lt_mul_right (Nat.two_pow_pos 52)
    rw [compare_eq_iff_eq.mpr rfl]
    refine compare_eq_compare ?_ ?_
    · rw [Int.ofNat_lt, ← hscale, h.value, h'.value, hunit]
    · rw [Int.ofNat_lt, ← hscale, h.value, h'.value, hunit]
  · rw [compare_gt_iff_gt.mpr (show (k : Int) - 52 > k' - 52 by omega),
      compare_gt_iff_gt.mpr (Int.ofNat_lt.mpr (h'.lt h hgt))]
    rfl

namespace Stands

variable {x y : UnpackedFloat} {a b : Int}

theorem unpack_pack (h : Stands x a) :
    UnpackedFloat.unpack Format.binary64 (UnpackedFloat.pack Format.binary64 x) = x := by
  cases h with
  | zero s => cases s <;> rfl
  | positive hm h => exact h.unpack_pack hm .positive
  | negative hm h => exact h.unpack_pack hm .negative

/-- The opposite number is stood for by the opposite double. -/
theorem neg (h : Stands x a) : Stands x.neg (-a) := by
  cases h with
  | zero s => exact .zero (-s)
  | positive hm h => exact .negative hm h
  | negative hm h =>
    rw [Int.neg_neg]
    exact .positive hm h

/-- **Whole numbers are compared** as what they are, also with different signs and with zero. -/
theorem compare_eq (hx : Stands x a) (hy : Stands y b) : x.compare y = some (compare a b) := by
  cases hx with
  | zero s =>
    cases hy with
    | zero s' => rfl
    | positive _ h' =>
      have hpos := h'.pos
      exact congrArg some (compare_lt_iff_lt.mpr (by omega)).symm
    | negative _ h' =>
      have hpos := h'.pos
      exact congrArg some (compare_gt_iff_gt.mpr (by omega)).symm
  | positive _ h =>
    have hpos := h.pos
    cases hy with
    | zero s' => exact congrArg some (compare_gt_iff_gt.mpr (by omega)).symm
    | positive _ h' => exact congrArg some (h.compare h')
    | negative _ h' =>
      have hpos' := h'.pos
      exact congrArg some (compare_gt_iff_gt.mpr (by omega)).symm
  | negative _ h =>
    have hpos := h.pos
    cases hy with
    | zero s' => exact congrArg some (compare_lt_iff_lt.mpr (by omega)).symm
    | positive _ h' =>
      have hpos' := h'.pos
      exact congrArg some (compare_lt_iff_lt.mpr (by omega)).symm
    | negative _ h' =>
      -- minus turns both orders around
      refine (congrArg (fun o => some (Ordering.swap o)) (h.compare h')).trans ?_
      rw [← Std.OrientedOrd.eq_swap]
      exact congrArg some (compare_eq_compare (by omega) (by omega))

end Stands

/-! ### Whole numbers as doubles -/

/-- Rounding gives a whole number if what is left of the digits makes one up. -/
theorem stands_round {m k p n : Nat} (hlog : m.log2 = k + 52) (hp : p ≤ k + 52) (hk : k ≤ p + 970)
    (hvalue : roundEven m (2 ^ k) * 2 ^ k = n * 2 ^ p) :
    Stands (roundWithAccuracy Format.binary64 .positive m (-p) .exact) n := by
  obtain ⟨r, j, hr, hlow, hhigh, hkj, hjk, hrj, hround⟩ :=
    roundWithAccuracy_eq .positive hlog (show -1074 ≤ -(p : Int) + k by omega)
  have hplace : -(p : Int) + j = ((j + 52 - p : Nat) : Int) - 52 := by omega
  rw [hround, hplace]
  refine .positive hr ⟨hlow, hhigh, by omega, ?_⟩
  refine Nat.eq_of_mul_eq_mul_right (Nat.two_pow_pos p) ?_
  calc r * 2 ^ (j + 52 - p) * 2 ^ p = r * 2 ^ (j + 52) := by
        rw [Nat.mul_assoc, ← Nat.pow_add, Nat.sub_add_cancel (by omega)]
    _ = n * 2 ^ p * 2 ^ 52 := by rw [Nat.pow_add, ← Nat.mul_assoc, hrj, hvalue]
    _ = n * 2 ^ 52 * 2 ^ p := by ring

/-- Where the last of the digits is cut off depends on the number alone. Zeros behind it that are
cut off as well make no difference. -/
theorem roundEven_mul_two_pow {n k p : Nat} (h : n.log2 + p = k + 52) :
    roundEven (n * 2 ^ p) (2 ^ k) * 2 ^ k = rounded n * 2 ^ p := by
  rcases Nat.le_total p k with hle | hle
  · obtain ⟨i, rfl⟩ := Nat.exists_eq_add_of_le hle
    have hplace : place n = 2 ^ i := by
      rw [place]
      congr 1
      omega
    rw [rounded, hplace, Nat.pow_add, Nat.mul_comm n, roundEven_mul (Nat.two_pow_pos p)]
    ring
  · -- the number has 53 digits at most, so that nothing but zeros is cut off
    have hsmall : n < 2 ^ 53 := by
      refine Nat.lt_log2_self.trans_le (Nat.pow_le_pow_right (by decide) ?_)
      omega
    rw [rounded_of_le hsmall.le]
    exact roundEven_mul_of_dvd (Nat.two_pow_pos k)
      (Dvd.dvd.mul_left (pow_dvd_pow 2 hle) n)

theorem log2_mul_two_pow {n : Nat} (hn : n ≠ 0) (p : Nat) : (n * 2 ^ p).log2 = n.log2 + p := by
  induction p with
  | zero => rw [Nat.pow_zero, Nat.mul_one, Nat.add_zero]
  | succ p ih =>
    have hpos : n * 2 ^ p ≠ 0 := Nat.mul_ne_zero hn (Nat.two_pow_pos p).ne'
    rw [Nat.pow_succ, ← Nat.mul_assoc, Nat.mul_comm, Nat.log2_two_mul hpos, ih, Nat.add_assoc]

/-- What is rounded stands for the number after rounding, wherever the digits of the number are
placed. -/
theorem stands_rounded {n p : Nat} (hn : n ≠ 0) (hp : 52 ≤ n.log2 + p) (hlog : n.log2 ≤ 1022) :
    Stands (roundWithAccuracy Format.binary64 .positive (n * 2 ^ p) (-p) .exact) (rounded n) := by
  obtain ⟨k, hk⟩ := Nat.exists_eq_add_of_le' hp
  refine stands_round ?_ (by omega) (by omega) (roundEven_mul_two_pow hk)
  rw [log2_mul_two_pow hn, hk]

/-- A number below `2 ^ 53` is shifted up until it has 53 digits, and nothing is lost. So it stands
for itself and not only for what it is rounded to. -/
theorem stands_normalize {n : Nat} (h : n < 2 ^ 53) :
    Stands (UnpackedFloat.normalize Format.binary64 n 0 .positive) n := by
  by_cases hn : n = 0
  · rw [hn]
    exact .zero _
  have hlog : n.log2 < 53 := (Nat.log2_lt hn).mpr h
  have hcompare : compare (n : Int) 0 = .gt := compare_gt_iff_gt.mpr (by omega)
  have hnormal : UnpackedFloat.normalize Format.binary64 n 0 .positive =
      UnpackedFloat.round Format.binary64 .positive n 0 := by
    delta UnpackedFloat.normalize
    rw [hcompare]
    rfl
  have hshift : (0 - max ((n.log2 : Int) + 1 + 0 - 53) (-1074)).toNat = 52 - n.log2 := by omega
  have hround : UnpackedFloat.round Format.binary64 .positive n 0 =
      roundWithAccuracy Format.binary64 .positive
        (n <<< (0 - max ((n.log2 : Int) + 1 + 0 - 53) (-1074)).toNat)
        (0 - ((0 - max ((n.log2 : Int) + 1 + 0 - 53) (-1074)).toNat : Int)) .exact := rfl
  have hrounded := stands_rounded (p := 52 - n.log2) hn (by omega) (by omega)
  rw [rounded_of_le h.le] at hrounded
  rw [hnormal, hround, hshift, Nat.shiftLeft_eq, Int.zero_sub]
  exact hrounded

theorem stands_ofUInt64 {n : Nat} (h : n < 2 ^ 53) : Stands (unpacked n.toUInt64.toFloat) n := by
  have hsize : n.toUInt64.toNat = n := by
    change n % 2 ^ 64 = n
    omega
  have hpacked : unpacked n.toUInt64.toFloat =
      UnpackedFloat.unpack Format.binary64 (UnpackedFloat.pack Format.binary64
        (UnpackedFloat.normalize Format.binary64 n.toUInt64.toNat 0 .positive)) := rfl
  rw [hpacked, hsize, (stands_normalize h).unpack_pack]
  exact stands_normalize h

/-- A number stays what it is if it is multiplied by one. A small whole number is turned into a
double by way of a product with a power of ten, which is one here. -/
theorem Stands.mul_one {x : UnpackedFloat} {a : Int} (h : Stands x a) (hpos : 0 ≤ a)
    (hsize : a < 2 ^ 53) (hone : 0 < 2 ^ 52) :
    Stands (UnpackedFloat.mul Format.binary64 x (.finite .positive (2 ^ 52) (-52) hone)) a := by
  cases h with
  | zero s => exact .zero _
  | @positive m k n hm h =>
    have hk := h.place_lt (by omega)
    have hexponent : (k : Int) - 52 + -52 = -((104 - k : Nat) : Int) := by omega
    change Stands (roundWithAccuracy Format.binary64 .positive (m * 2 ^ 52) (k - 52 + -52) .exact) n
    rw [hexponent]
    refine stands_round (k := 52) ?_ (by omega) (by omega) ?_
    · rw [log2_mul_two_pow hm.ne', (Nat.log2_eq_iff hm.ne').mpr ⟨h.low, h.high⟩]
    · refine Nat.eq_of_mul_eq_mul_right (Nat.two_pow_pos k) ?_
      calc roundEven (m * 2 ^ 52) (2 ^ 52) * 2 ^ 52 * 2 ^ k = m * 2 ^ k * 2 ^ 52 := by
            rw [roundEven_exact m (Nat.two_pow_pos 52)]
            ring
        _ = n * 2 ^ 104 := by
            rw [h.value]
            ring
        _ = n * 2 ^ (104 - k) * 2 ^ k := by
            rw [Nat.mul_assoc, ← Nat.pow_add, Nat.sub_add_cancel (by omega)]
  | negative hm h =>
    have := h.pos
    omega

/-- A whole number is turned into a double by rounding it, with enough digits to spare. -/
theorem ofScientific_zero {n : Nat} (hn : n ≠ 0) :
    UnpackedFloat.ofScientific Format.binary64 n 0 =
      roundWithAccuracy Format.binary64 .positive (n * 2 ^ 53) (-(53 : Nat)) .exact := by
  have hlow : ¬ (0 : Int) < -((2 ^ Format.binary64.exponentBits : Int) + n.log2) := by
    have hpos : (0 : Int) < 2 ^ Format.binary64.exponentBits := by decide
    omega
  have hproduct : UnpackedFloat.ofScientific Format.binary64 n 0 =
      roundWithAccuracy Format.binary64 .positive (n <<< 53 * 10 ^ 0) (-53 + 0) .exact :=
    (dif_neg hn).trans ((if_neg (by decide)).trans ((if_neg hlow).trans (if_pos (by decide))))
  rw [hproduct, Nat.shiftLeft_eq, Nat.pow_zero, Nat.mul_one]
  rfl

/-- **A whole number of 64 bits** is rounded when it is turned into a double. Up to `2 ^ 53` it is
shifted into place, beyond that digits are cut off; both are covered by `rounded`. -/
theorem stands_ofNat {n : Nat} (h : n < 2 ^ 64) :
    Stands (unpacked (Float.ofNat n)) (rounded n) := by
  by_cases hsmall : n < 2 ^ 53 ∧ 0 ≤ 22
  · -- the number is a double already, and is multiplied by one
    have hproduct : Float.ofNat n = n.toUInt64.toFloat * Float.ofBits 4607182418800017408 :=
      dif_pos hsmall
    have hone : unpacked (Float.ofBits 4607182418800017408) =
      .finite .positive (2 ^ 52) (-52) (by decide) := rfl
    have hstands := (stands_ofUInt64 hsmall.1).mul_one (Int.natCast_nonneg n) (by omega) (by decide)
    have hpacked : unpacked (n.toUInt64.toFloat * Float.ofBits 4607182418800017408) =
        UnpackedFloat.unpack Format.binary64 (UnpackedFloat.pack Format.binary64
          (UnpackedFloat.mul Format.binary64 (unpacked n.toUInt64.toFloat)
            (unpacked (Float.ofBits 4607182418800017408)))) := rfl
    rw [hproduct, hpacked, hone, hstands.unpack_pack, rounded_of_le hsmall.1.le]
    exact hstands
  · have hn : n ≠ 0 := by
      rintro rfl
      exact hsmall (by decide)
    have hlog : n.log2 < 64 := (Nat.log2_lt hn).mpr h
    have hlarge : 2 ^ 53 ≤ n := Nat.le_of_not_lt fun hlt => hsmall ⟨hlt, by decide⟩
    have hlow : 53 ≤ n.log2 := (Nat.le_log2 hn).mpr hlarge
    have hscientific : Float.ofNat n = ⟨Float.Model.ofScientific n 0⟩ := dif_neg hsmall
    have hpacked : unpacked ⟨Float.Model.ofScientific n 0⟩ =
        UnpackedFloat.unpack Format.binary64 (UnpackedFloat.pack Format.binary64
          (UnpackedFloat.ofScientific Format.binary64 n 0)) := rfl
    have hstands := stands_rounded (p := 53) hn (by omega) (by omega)
    rw [hscientific, hpacked, ofScientific_zero hn, hstands.unpack_pack]
    exact hstands

/-- The whole number that a double has in the place of a whole number. The sign is kept apart, so
that rounding is the same on both sides of zero. -/
def nearest : Int → Int
  | .ofNat n => rounded n
  | .negSucc n => -rounded (n + 1)

/-- A whole number of 64 bits stands for itself after rounding. -/
theorem stands_ofInt {n : Int} (h : n.natAbs < 2 ^ 64) :
    Stands (unpacked (Float.ofInt n)) (nearest n) := by
  cases n with
  | ofNat n => exact stands_ofNat h
  | negSucc n =>
    have hstands := (stands_ofNat (n := n + 1) h).neg
    have hpacked : unpacked (Float.ofInt (.negSucc n)) =
        UnpackedFloat.unpack Format.binary64 (UnpackedFloat.pack Format.binary64
          (unpacked (Float.ofNat (n + 1))).neg) := rfl
    rw [hpacked, hstands.unpack_pack]
    exact hstands

/-- Up to `2 ^ 53` nothing is rounded. -/
theorem nearest_of_le {n : Int} (h : n.natAbs ≤ 2 ^ 53) : nearest n = n := by
  cases n with
  | ofNat n => exact congrArg Int.ofNat (rounded_of_le h)
  | negSucc n => exact congrArg (fun m : Nat => -(m : Int)) (rounded_of_le h)

/-- Rounding keeps the order of whole numbers, also across zero. -/
theorem nearest_mono {m n : Int} (h : m ≤ n) : nearest m ≤ nearest n := by
  cases m with
  | ofNat m =>
    cases n with
    | ofNat n => exact Int.ofNat_le.mpr (rounded_mono (Int.ofNat_le.mp h))
    | negSucc n =>
      have hle : (m : Int) ≤ .negSucc n := h
      omega
  | negSucc m =>
    cases n with
    | ofNat n =>
      change -(rounded (m + 1) : Int) ≤ rounded n
      omega
    | negSucc n =>
      have hmono : rounded (n + 1) ≤ rounded (m + 1) := rounded_mono (by omega)
      change -(rounded (m + 1) : Int) ≤ -(rounded (n + 1) : Int)
      omega

/-- Whole numbers of 64 bits that are turned into doubles are compared after rounding. This is all
that the comparison of whole numbers needs to know about doubles. -/
theorem compareFloats?_ofInt {m n : Int} (hm : m.natAbs < 2 ^ 64) (hn : n.natAbs < 2 ^ 64) :
    compareFloats? (Float.ofInt m) (Float.ofInt n) = some (compare (nearest m) (nearest n)) := by
  rw [compareFloats?_eq, (stands_ofInt hm).compare_eq (stands_ofInt hn)]

end ChartNet.Decimal

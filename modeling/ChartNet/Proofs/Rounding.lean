import ChartNet.Proofs.Doubles

/-!
# The nearest double

`nearestBits` looks at a fraction only through its value (`nearestBits_mul`), and it gives back a
number that is a double already (`nearestBits_exact`). For decimals this means that zeros may be
moved between the digits and the exponent (`decimalBits_mul_pow`).
-/

namespace ChartNet.Decimal

/-! ### Fractions -/

/-- Only the value of the fraction matters. -/
theorem roundEven_mul {k : Nat} (hk : 0 < k) (num den : Nat) :
    roundEven (k * num) (k * den) = roundEven num den := by
  have htwice : 2 * (k * (num % den)) = k * (2 * (num % den)) := by ring
  have hlt : k * (2 * (num % den)) < k * den ↔ 2 * (num % den) < den := Nat.mul_lt_mul_left hk
  have heq : k * (2 * (num % den)) = k * den ↔ 2 * (num % den) = den :=
    Nat.mul_right_inj hk.ne'
  simp only [roundEven, Nat.mul_div_mul_left _ _ hk, Nat.mul_mod_mul_left, htwice, hlt,
    Bool.beq_eq_decide_eq, heq]

theorem roundEven_exact (m : Nat) {d : Nat} (hd : 0 < d) : roundEven (m * d) d = m := by
  simp [roundEven, Nat.mul_div_cancel _ hd, hd]

theorem roundEven_eq_zero {num den : Nat} (h : 2 * num < den) : roundEven num den = 0 := by
  have hlt : num < den := by omega
  simp [roundEven, Nat.div_eq_of_lt hlt, Nat.mod_eq_of_lt hlt, h]

theorem le_roundEven (num den : Nat) : num / den ≤ roundEven num den := by
  rw [roundEven]
  split_ifs <;> omega

/-- Only the value of a fraction matters. -/
theorem nearestBits_mul {k : Nat} (hk : 0 < k) (num den : Nat) :
    nearestBits (k * num) (k * den) = nearestBits num den := by
  rw [nearestBits, nearestBits]
  simp only [Nat.mul_assoc, Nat.mul_div_mul_left _ _ hk, roundEven_mul hk]

theorem nearestBits_le (num den : Nat) : nearestBits num den ≤ infiniteBits := Nat.min_le_right _ _

/-- A fraction less than half of the least double is nearest to zero. -/
theorem nearestBits_eq_zero {num den : Nat} (h : 2 * (num * 2 ^ leastPlace) < den) :
    nearestBits num den = 0 := by
  have hdiv : num * 2 ^ leastPlace / den = 0 := Nat.div_eq_of_lt (by omega)
  simp only [nearestBits, Nat.pow_eq, hdiv, Nat.log2_zero, Nat.zero_sub, Nat.pow_zero, Nat.mul_one,
    roundEven_eq_zero h, Nat.zero_mul, Nat.add_zero, Nat.zero_min]

/-- A fraction beyond the largest double is nearest to the infinity. Half of the last place above
the largest double is the limit, but a power of two suffices here. -/
theorem nearestBits_eq_infinite {num den k : Nat} (hden : 0 < den) (hk : 1024 ≤ k)
    (h : den * 2 ^ k ≤ num) :
    nearestBits num den = infiniteBits := by
  refine Nat.min_eq_right ?_
  simp only [Nat.pow_eq, infiniteBits_eq]
  generalize hz : num * 2 ^ leastPlace / den = z
  have hzle : 2 ^ (k + leastPlace) ≤ z := by
    rw [← hz, Nat.le_div_iff_mul_le hden]
    calc 2 ^ (k + leastPlace) * den = den * 2 ^ k * 2 ^ leastPlace := by
          rw [Nat.mul_assoc, ← Nat.pow_add, Nat.mul_comm]
      _ ≤ num * 2 ^ leastPlace := Nat.mul_le_mul_right _ h
  have hzpos : z ≠ 0 := by
    have := Nat.two_pow_pos (k + leastPlace)
    omega
  have hlog : k + leastPlace ≤ z.log2 := (Nat.le_log2 hzpos).mpr hzle
  have hleast : leastPlace = 1074 := rfl
  -- the mantissa is at least the least one of its place
  have hmantissa : 2 ^ 52 ≤ num * 2 ^ leastPlace / (den * 2 ^ (z.log2 - 52)) := by
    rw [← Nat.div_div_eq_div_mul, hz, Nat.le_div_iff_mul_le (Nat.two_pow_pos _), ← Nat.pow_add]
    calc 2 ^ (52 + (z.log2 - 52)) = 2 ^ z.log2 := by congr 1; omega
      _ ≤ z := Nat.log2_self_le hzpos
  have hrounded := le_roundEven (num * 2 ^ leastPlace) (den * 2 ^ (z.log2 - 52))
  have hplace : 2046 * 2 ^ 52 ≤ (z.log2 - 52) * 2 ^ 52 := Nat.mul_le_mul_right _ (by omega)
  omega

/-- A number that has a double of its own is nearest to that double: `m` is its mantissa and `k` the
place of its last bit. -/
theorem nearestBits_exact {m k num den : Nat} (hden : 0 < den)
    (hvalue : num * 2 ^ leastPlace = m * 2 ^ k * den) (hm : m < 2 ^ 53)
    (hplace : 2 ^ 52 ≤ m ∨ k = 0) (hle : k * 2 ^ 52 + m ≤ infiniteBits) :
    nearestBits num den = k * 2 ^ 52 + m := by
  have hlog : (m * 2 ^ k).log2 - 52 = k := by
    rcases hplace with hnormal | rfl
    · have hpos : m * 2 ^ k ≠ 0 := (Nat.mul_pos (by omega) (Nat.two_pow_pos k)).ne'
      have hbounds : 2 ^ (52 + k) ≤ m * 2 ^ k ∧ m * 2 ^ k < 2 ^ (52 + k + 1) := by
        rw [show 52 + k + 1 = 53 + k by omega, Nat.pow_add, Nat.pow_add]
        exact ⟨Nat.mul_le_mul_right _ hnormal, Nat.mul_lt_mul_of_pos_right hm (Nat.two_pow_pos k)⟩
      rw [(Nat.log2_eq_iff hpos).mpr hbounds]
      omega
    · have hlog : m.log2 ≤ 52 := by
        by_cases hzero : m = 0
        · simp [hzero]
        · exact Nat.lt_succ_iff.mp ((Nat.log2_lt hzero).mpr hm)
      simpa using Nat.sub_eq_zero_of_le hlog
  have hround : roundEven (m * 2 ^ k * den) (den * 2 ^ k) = m := by
    rw [Nat.mul_assoc, Nat.mul_comm (2 ^ k)]
    exact roundEven_exact m (Nat.mul_pos hden (Nat.two_pow_pos k))
  simp only [nearestBits, Nat.pow_eq, hvalue, Nat.mul_div_cancel _ hden, hlog, hround]
  exact Nat.min_eq_left hle

/-! ### Decimals -/

/-- The exponent decides alone only where computing would give the same: above the largest double
and below the least one. So the shortcuts can be forgotten. -/
theorem decimalBits_eq (digits : Nat) (exponent : Int) :
    decimalBits digits exponent =
      nearestBits (digits * 10 ^ exponent.toNat) (10 ^ (-exponent).toNat) := by
  -- a decimal place is worth three binary ones, enough for both cut-offs
  have hten : ∀ k : Nat, 2 ^ (3 * k) ≤ 10 ^ k := fun k => by
    rw [Nat.pow_mul]
    exact Nat.pow_le_pow_left (by decide) k
  have hleast : leastPlace = 1074 := rfl
  rw [decimalBits]
  split_ifs with hzero hinfinite
  · symm
    by_cases hdigits : digits = 0
    · rw [hdigits, Nat.zero_mul]
      exact nearestBits_eq_zero (by simp)
    · have hsmall : exponent < -(400 + (digits.log2 : Int)) := by
        simpa [hdigits] using hzero
      have hle : exponent.toNat = 0 := by omega
      rw [hle, Nat.pow_zero, Nat.mul_one]
      refine nearestBits_eq_zero ?_
      calc 2 * (digits * 2 ^ leastPlace)
          < 2 * (2 ^ (digits.log2 + 1) * 2 ^ leastPlace) := by
            have := Nat.mul_lt_mul_of_pos_right (@Nat.lt_log2_self digits)
              (Nat.two_pow_pos leastPlace)
            omega
        _ = 2 ^ (1 + (digits.log2 + 1 + leastPlace)) := by
            rw [← Nat.pow_add, Nat.pow_add 2 1, Nat.pow_one]
        _ ≤ 2 ^ (3 * (-exponent).toNat) := Nat.pow_le_pow_right (by decide) (by omega)
        _ ≤ 10 ^ (-exponent).toNat := hten _
  · symm
    have hdigits : digits ≠ 0 := fun h => hzero (by simp [h])
    have hle : (-exponent).toNat = 0 := by omega
    rw [hle, Nat.pow_zero]
    refine nearestBits_eq_infinite Nat.one_pos (show 1024 ≤ 3 * exponent.toNat by omega) ?_
    exact Nat.mul_le_mul (Nat.pos_of_ne_zero hdigits) (hten _)
  · rfl

theorem decimalBits_le (digits : Nat) (exponent : Int) :
    decimalBits digits exponent ≤ infiniteBits := by
  rw [decimalBits_eq]
  exact nearestBits_le _ _

/-- A zero at the end of the digits is worth a power of ten. -/
theorem decimalBits_ten_mul (digits : Nat) (exponent : Int) :
    decimalBits (10 * digits) exponent = decimalBits digits (exponent + 1) := by
  rw [decimalBits_eq, decimalBits_eq]
  rcases lt_or_ge exponent 0 with hneg | hnonneg
  · have hle : exponent.toNat = 0 := by omega
    have hle' : (exponent + 1).toNat = 0 := by omega
    have hsucc : (-exponent).toNat = (-(exponent + 1)).toNat + 1 := by omega
    rw [hle, hle', hsucc, Nat.pow_zero, Nat.mul_one, Nat.mul_one, Nat.pow_succ, Nat.mul_comm _ 10]
    exact nearestBits_mul (by decide) _ _
  · have hle : (-exponent).toNat = 0 := by omega
    have hle' : (-(exponent + 1)).toNat = 0 := by omega
    have hsucc : (exponent + 1).toNat = exponent.toNat + 1 := by omega
    rw [hle, hle', hsucc, Nat.pow_succ, Nat.mul_assoc, Nat.mul_left_comm, Nat.mul_comm 10]

/-- The same for any number of zeros. -/
theorem decimalBits_mul_pow (digits k : Nat) (exponent : Int) :
    decimalBits (digits * 10 ^ k) exponent = decimalBits digits (exponent + k) := by
  induction k generalizing exponent with
  | zero => simp
  | succ k ih =>
    rw [Nat.pow_succ, ← Nat.mul_assoc, Nat.mul_comm, decimalBits_ten_mul, ih]
    congr 1
    omega

end ChartNet.Decimal

import ChartNet.Decimal.Literal
import ChartNet.Decimal.Notation
import ChartNet.Proofs.Rounding
import Mathlib.Data.List.TakeWhile

/-!
# Numbers that are written and read

A double is written with the shortest digits that are read as the same double. Whichever digits the
search for them comes upon, they are nearest to the double (`decimalBits_shortest`); moving the
point to where the exponent says, dropping zeros or adding them does not change that, and so the
text is read as the double that it was written for (`read?_positional`).
-/

namespace ChartNet.Decimal

/-! ### Runs of digits -/

theorem natOf_append (cs ds : List Char) :
    natOf (cs ++ ds) = 10 ^ ds.length * natOf cs + natOf ds := by
  change Nat.ofDigitChars 10 (cs ++ ds) 0 = _
  rw [Nat.ofDigitChars_append, Nat.ofDigitChars_eq_ofDigitChars_zero]
  rfl

theorem natOf_zeros (k : Nat) : natOf (zeros k) = 0 := Nat.ofDigitChars_replicate_zero

theorem natOf_digitsOf (n : Nat) : natOf (digitsOf n) = n :=
  Nat.ofDigitChars_toDigits (by decide) (by decide)

theorem isDigit_of_mem_digitsOf {n : Nat} {c : Char} (h : c ∈ digitsOf n) : c.isDigit = true :=
  Nat.isDigit_of_mem_toDigits (by decide) (by decide) h

theorem isDigit_of_mem_zeros {k : Nat} {c : Char} (h : c ∈ zeros k) : c.isDigit = true := by
  rw [List.eq_of_mem_replicate h]
  rfl

theorem unsigned?_whole {whole : List Char} (hne : whole ≠ [])
    (hdigits : ∀ c ∈ whole, c.isDigit = true) :
    unsigned? whole = some (ofDecimal (natOf whole) 0) := by
  have htake : whole.takeWhile Char.isDigit = whole := List.takeWhile_eq_self_iff.mpr hdigits
  have hdrop : whole.dropWhile Char.isDigit = [] := List.dropWhile_eq_nil_iff.mpr hdigits
  simp [unsigned?, takeDigits, htake, hdrop, takeFraction, exponent?, hne]

/-- Digits with a point among them are a decimal; those behind the point lower its exponent. -/
theorem unsigned?_fraction {whole fraction : List Char} (hne : whole ≠ [])
    (hwhole : ∀ c ∈ whole, c.isDigit = true) (hfraction : ∀ c ∈ fraction, c.isDigit = true) :
    unsigned? (whole ++ '.' :: fraction) =
      some (ofDecimal (natOf (whole ++ fraction)) (-(fraction.length : Int))) := by
  have hpoint : Char.isDigit '.' = false := by decide
  have htake : (whole ++ '.' :: fraction).takeWhile Char.isDigit = whole := by
    rw [List.takeWhile_append_of_pos hwhole, List.takeWhile_cons_of_neg (by simp [hpoint]),
      List.append_nil]
  have hdrop : (whole ++ '.' :: fraction).dropWhile Char.isDigit = '.' :: fraction := by
    rw [List.dropWhile_append_of_pos hwhole, List.dropWhile_cons_of_neg (by simp [hpoint])]
  have htake' : fraction.takeWhile Char.isDigit = fraction :=
    List.takeWhile_eq_self_iff.mpr hfraction
  have hdrop' : fraction.dropWhile Char.isDigit = [] := List.dropWhile_eq_nil_iff.mpr hfraction
  simp [unsigned?, takeDigits, htake, hdrop, takeFraction, htake', hdrop', exponent?, hne]

theorem ofDecimal_mul_pow (digits k : Nat) (exponent : Int) :
    ofDecimal (digits * 10 ^ k) exponent = ofDecimal digits (exponent + k) := by
  rw [ofDecimal, ofDecimal, decimalBits_mul_pow]

/-- A decimal that is written without an exponent is read as the same number. Depending on the
exponent, zeros are written behind the digits, in front of them, or a point among them. -/
theorem unsigned?_positional (d : Scaled) :
    unsigned? d.positional = some (ofDecimal d.digits d.exponent) := by
  have hdigits : ∀ c ∈ digitsOf d.digits, c.isDigit = true := fun _ => isDigit_of_mem_digitsOf
  have hne : digitsOf d.digits ≠ [] := Nat.toDigits_ne_nil
  rw [Scaled.positional]
  simp only
  split_ifs with hwhole hinside
  · have hall : ∀ c ∈ digitsOf d.digits ++ zeros d.exponent.toNat, c.isDigit = true :=
      List.forall_mem_append.mpr ⟨hdigits, fun _ => isDigit_of_mem_zeros⟩
    rw [unsigned?_whole (by simp [hne]) hall, natOf_append, natOf_zeros, natOf_digitsOf, zeros,
      List.length_replicate, Nat.add_zero, Nat.mul_comm, ofDecimal_mul_pow]
    congr 2
    omega
  · -- the point stands among the digits
    rw [unsigned?_fraction _ (fun c hc => hdigits c (List.mem_of_mem_take hc))
      (fun c hc => hdigits c (List.mem_of_mem_drop hc)), List.take_append_drop, natOf_digitsOf,
      List.length_drop]
    · congr 2
      omega
    · refine List.ne_nil_of_length_pos ?_
      rw [List.length_take]
      omega
  · have hall : ∀ c ∈ zeros ((-d.exponent).toNat - (digitsOf d.digits).length) ++ digitsOf d.digits,
        c.isDigit = true := List.forall_mem_append.mpr ⟨fun _ => isDigit_of_mem_zeros, hdigits⟩
    have hzero : natOf ['0'] = 0 := rfl
    -- all digits stand behind the point, with zeros before them
    change unsigned? (['0'] ++ '.' :: (zeros _ ++ digitsOf d.digits)) = _
    rw [unsigned?_fraction (by simp) (List.forall_mem_singleton.mpr rfl) hall, natOf_append,
      natOf_append, natOf_zeros, natOf_digitsOf, hzero, List.length_append, zeros,
      List.length_replicate]
    simp only [Nat.mul_zero, Nat.zero_add]
    congr 2
    omega

/-- A number that is written without an exponent starts with a digit. -/
theorem positional_head (d : Scaled) :
    ∃ c cs, d.positional = c :: cs ∧ c.isDigit = true := by
  rcases hds : digitsOf d.digits with _ | ⟨c, cs⟩
  · exact absurd hds Nat.toDigits_ne_nil
  · have hc : c.isDigit = true := isDigit_of_mem_digitsOf (hds ▸ List.mem_cons_self ..)
    rw [Scaled.positional]
    simp only [hds]
    split_ifs with hwhole hinside
    · exact ⟨c, _, rfl, hc⟩
    · obtain ⟨k, hk⟩ : ∃ k, (c :: cs).length - (-d.exponent).toNat = k + 1 :=
        Nat.exists_eq_succ_of_ne_zero (by omega)
      rw [hk]
      exact ⟨c, _, rfl, hc⟩
    · exact ⟨'0', _, rfl, by decide⟩

/-! ### Signs and words -/

theorem toLower_of_isDigit {c : Char} (h : c.isDigit = true) : c.toLower = c := by
  have hnine : ('9').val.toNat = 57 := rfl
  have hupper : ('A').val.toNat = 65 := rfl
  simp only [Char.isDigit, Bool.and_eq_true, decide_eq_true_eq, UInt32.le_iff_toNat_le] at h
  refine dif_neg ?_
  rw [ge_iff_le, UInt32.le_iff_toNat_le]
  omega

/-- A digit is no sign. -/
theorem takeSign_of_isDigit {c : Char} (h : c.isDigit = true) (cs : List Char) :
    takeSign (c :: cs) = (false, c :: cs) := by
  unfold takeSign
  split
  · rename_i heq
    rw [(List.cons.inj heq).1] at h
    cases h
  · rename_i heq
    rw [(List.cons.inj heq).1] at h
    cases h
  · rfl

/-- What starts with a digit is none of the words for infinity and for what is no number. -/
theorem word?_of_isDigit {c : Char} (h : c.isDigit = true) (cs : List Char) :
    word? (c :: cs) = none := by
  have hi : c ≠ 'i' := by
    rintro rfl
    cases h
  have hn : c ≠ 'n' := by
    rintro rfl
    cases h
  simp [word?, toLower_of_isDigit h, hi, hn]

/-- What starts with a digit, maybe after a minus sign, is read as a decimal. -/
theorem read?_of_isDigit {c : Char} (h : c.isDigit = true) {cs : List Char} {x : Float}
    (hx : unsigned? (c :: cs) = some x) (negative : Bool) :
    read? (String.ofList (if negative then '-' :: c :: cs else c :: cs)) =
      some (if negative then -x else x) := by
  have hsign : takeSign (if negative then '-' :: c :: cs else c :: cs) = (negative, c :: cs) := by
    cases negative with
    | true => rfl
    | false => exact takeSign_of_isDigit h cs
  rw [read?, String.toList_ofList, hsign]
  simp only [word?_of_isDigit h, hx, Option.or, Option.map_some]

/-! ### The shortest digits -/

/-- Leaving out zeros at the end does not change what the digits stand for. -/
theorem decimalBits_dropZeros (fuel : Nat) (d : Scaled) :
    decimalBits (dropZeros fuel d).digits (dropZeros fuel d).exponent =
      decimalBits d.digits d.exponent := by
  induction fuel generalizing d with
  | zero => rfl
  | succ fuel ih =>
    rw [dropZeros]
    split_ifs with h
    · have hten : d.digits = 10 * (d.digits / 10) := by
        have hmod : d.digits % 10 = 0 := by simpa using (Bool.and_eq_true_iff.mp h).1
        omega
      rw [ih, ← decimalBits_ten_mul, ← hten]
    · rfl

theorem code_ofDecimal (digits : Nat) (exponent : Int) :
    code (ofDecimal digits exponent) = decimalBits digits exponent :=
  code_ofBits (decimalBits_le digits exponent)

/-- Digits that are tried are only taken if they lead back to the bits that they are for. -/
theorem decimalBits_of_neighbour? {tie : Tie} {bits : UInt64} {m : Nat} {q unit : Int} {d : Scaled}
    (h : neighbour? tie bits m q unit = some d) :
    decimalBits d.digits d.exponent = bits.toNat := by
  have hreads : d.readsAs bits = true := by
    unfold neighbour? at h
    simp only at h
    split_ifs at h with h₁ h₂ h₃ h₄ h₅ <;> cases h <;> assumption
  rw [← code_ofDecimal, code, eq_of_beq hreads]

/-- The exact expansion of a double is nearest to it: `k` is the place of the last bit. It is what
is left if no shorter digits are taken. -/
theorem decimalBits_exact {m k : Nat} (hm : m < 2 ^ 53) (hplace : 2 ^ 52 ≤ m ∨ k = 0)
    (hle : k * 2 ^ 52 + m ≤ infiniteBits) :
    decimalBits (exact m (k - 1074)).digits (exact m (k - 1074)).exponent = k * 2 ^ 52 + m := by
  have hleast : leastPlace = 1074 := rfl
  rw [exact]
  split_ifs with hwhole
  · have hk : k = ((k : Int) - 1074).toNat + leastPlace := by omega
    generalize ((k : Int) - 1074).toNat = j at hk ⊢
    rw [decimalBits_eq]
    refine nearestBits_exact (Nat.pow_pos (by decide)) ?_ hm hplace hle
    rw [hk, Nat.pow_add]
    simp [Nat.mul_assoc]
  · obtain ⟨p, hp⟩ : ∃ p : Nat, (k : Int) - 1074 = -p := ⟨((1074 : Int) - k).toNat, by omega⟩
    have hk : leastPlace = k + p := by omega
    have hten : (10 : Nat) ^ p = 5 ^ p * 2 ^ p := by rw [← Nat.mul_pow]
    rw [hp, decimalBits_eq, neg_neg, Int.toNat_natCast, Int.toNat_neg_natCast, Nat.pow_zero,
      Nat.mul_one, Nat.pow_eq, hten, Nat.mul_comm m, nearestBits_mul (Nat.pow_pos (by decide))]
    refine nearestBits_exact (Nat.two_pow_pos p) ?_ hm hplace hle
    rw [hk, Nat.pow_add, Nat.mul_assoc]

/-- The shortest digits of a double are nearest to it. Each attempt has been checked, so it does not
matter here in what order the attempts are made. -/
theorem decimalBits_shortest (tie : Tie) {bits : UInt64} {m k : Nat} (hm : m < 2 ^ 53)
    (hplace : 2 ^ 52 ≤ m ∨ k = 0) (hle : k * 2 ^ 52 + m ≤ infiniteBits)
    (hbits : bits.toNat = k * 2 ^ 52 + m) :
    decimalBits (shortest tie m (k - 1074) bits).digits (shortest tie m (k - 1074) bits).exponent =
      bits.toNat := by
  rw [shortest, decimalBits_dropZeros]
  generalize hfound : (List.range 17).findSome? _ = found
  rcases found with _ | d
  · rw [Option.getD_none, decimalBits_exact hm hplace hle, hbits]
  · obtain ⟨n, -, hn⟩ := List.exists_of_findSome?_eq_some hfound
    exact decimalBits_of_neighbour? hn

/-! ### Doubles -/

/-- The code of a double with the given sign. -/
def signed (negative : Bool) (n : Nat) : Nat := if negative then 2 ^ 63 + n else n

theorem code_eq_signed (x : Float) :
    code x = signed (code x / 2 ^ 63 == 1) (code x % 2 ^ 63) := by
  have hlt : code x < 2 ^ 64 := x.toBits.toNat_lt
  rw [signed]
  split_ifs with hs
  · have := eq_of_beq hs
    omega
  · have : code x / 2 ^ 63 ≠ 1 := by simpa using hs
    omega

/-- What a double stands for, and what its code then is: an infinity, or a mantissa and the place of
its last bit, or zero. Those that are no numbers are left out. -/
theorem ofFloat_cases {x : Float} (h : x.isNaN = false) :
    (∃ negative, Binary.ofFloat x = .infinite negative ∧ code x = signed negative infiniteBits) ∨
    ∃ (negative : Bool) (m k : Nat), Binary.ofFloat x = .finite negative m (k - 1074) ∧
      code x = signed negative (k * 2 ^ 52 + m) ∧ m < 2 ^ 53 ∧ (2 ^ 52 ≤ m ∨ k = 0) ∧
      k * 2 ^ 52 + m < infiniteBits := by
  have hle := isNaN_eq_false h
  have hbits := infiniteBits_eq
  have hsign := code_eq_signed x
  by_cases hinfinite : code x / 2 ^ 52 % 2 ^ 11 = 2047
  · have hzero : code x % 2 ^ 52 = 0 := by omega
    have hcode : code x % 2 ^ 63 = infiniteBits := by omega
    refine .inl ⟨code x / 2 ^ 63 == 1, ?_, hcode ▸ hsign⟩
    change (if code x / 2 ^ 52 % 2 ^ 11 == 2047 then
      if code x % 2 ^ 52 == 0 then _ else _ else _) = _
    rw [if_pos (beq_iff_eq.mpr hinfinite), if_pos (beq_iff_eq.mpr hzero)]
    rfl
  · by_cases hsub : code x / 2 ^ 52 % 2 ^ 11 = 0
    · -- the smallest exponent: the mantissa is stored as it is
      have hcode : code x % 2 ^ 63 = 0 * 2 ^ 52 + code x % 2 ^ 52 := by omega
      refine .inr ⟨code x / 2 ^ 63 == 1, code x % 2 ^ 52, 0, ?_, hcode ▸ hsign, by omega,
        .inr rfl, by omega⟩
      change (if code x / 2 ^ 52 % 2 ^ 11 == 2047 then _ else
        if code x / 2 ^ 52 % 2 ^ 11 == 0 then _ else _) = _
      rw [if_neg (mt beq_iff_eq.mp hinfinite), if_pos (beq_iff_eq.mpr hsub)]
      rfl
    · -- otherwise the leading one is put back, and counts as one step of the exponent
      have hcode : code x % 2 ^ 63 =
          (code x / 2 ^ 52 % 2 ^ 11 - 1) * 2 ^ 52 + (2 ^ 52 + code x % 2 ^ 52) := by omega
      refine .inr ⟨code x / 2 ^ 63 == 1, 2 ^ 52 + code x % 2 ^ 52, code x / 2 ^ 52 % 2 ^ 11 - 1, ?_,
        hcode ▸ hsign, by omega, .inl (by omega), by omega⟩
      have hexponent : ((code x / 2 ^ 52 % 2 ^ 11 - 1 : Nat) : Int) - 1074 =
          Int.ofNat (code x / 2 ^ 52 % 2 ^ 11) - 1075 := by
        rw [Int.ofNat_eq_natCast]
        omega
      rw [hexponent]
      change (if code x / 2 ^ 52 % 2 ^ 11 == 2047 then _ else
        if code x / 2 ^ 52 % 2 ^ 11 == 0 then _ else _) = _
      rw [if_neg (mt beq_iff_eq.mp hinfinite), if_neg (mt beq_iff_eq.mp hsub)]
      rfl

/-- A double is determined by its sign and by its bits without the sign. -/
theorem eq_of_code {x y : Float} {negative : Bool} {n : Nat} (hn : n ≤ infiniteBits)
    (hx : code x = signed negative n) (hy : code y = n) : (if negative then -y else y) = x := by
  apply code_injective
  cases negative with
  | false => exact hy.trans hx.symm
  | true =>
    change code (-y) = code x
    rw [code_neg (hy ▸ hn), hy, hx]
    rfl

theorem code_infinity : code (1.0 / 0.0) = infiniteBits := by decide +kernel

/-- What is written of a double besides its sign is read as the double without its sign. An infinity
is written as a word, and no digits are read. -/
theorem unsigned?_magnitude {bits : UInt64} {m k : Nat} (hm : m < 2 ^ 53)
    (hplace : 2 ^ 52 ≤ m ∨ k = 0) (hle : k * 2 ^ 52 + m ≤ infiniteBits)
    (hbits : bits.toNat = k * 2 ^ 52 + m) :
    ∃ c cs y, (if m == 0 then ['0'] else (shortest .up m (k - 1074) bits).positional) = c :: cs ∧
      c.isDigit = true ∧ unsigned? (c :: cs) = some y ∧ code y = k * 2 ^ 52 + m := by
  by_cases hzero : m = 0
  · -- a zero has no mantissa, and a digit of its own
    have hk : k = 0 := by omega
    subst hzero hk
    exact ⟨'0', [], ofDecimal 0 0, rfl, rfl, rfl, code_ofDecimal 0 0⟩
  · obtain ⟨c, cs, hhead, hc⟩ := positional_head (shortest .up m (k - 1074) bits)
    refine ⟨c, cs, _, ?_, hc, hhead ▸ unsigned?_positional _, ?_⟩
    · rw [if_neg (by simpa using hzero), hhead]
    · rw [code_ofDecimal, decimalBits_shortest .up hm hplace hle hbits, hbits]

/-- **A double is read back from its shortest digits**, the infinities and a negative zero included.
This is what makes rates survive being written and read. -/
theorem read?_positional {x : Float} (h : x.isNaN = false) : read? (positional x) = some x := by
  rcases ofFloat_cases h with ⟨negative, hx, hcode⟩ | ⟨negative, m, k, hx, hcode, hm, hplace, hlt⟩
  · have hread : read? (if negative then "-inf" else "inf") =
        some (if negative then -(1.0 / 0.0) else 1.0 / 0.0) := by
      cases negative <;> rfl
    rw [positional, hx]
    exact hread.trans (congrArg some (eq_of_code (Nat.le_refl _) hcode code_infinity))
  · have habs : x.abs.toBits.toNat = k * 2 ^ 52 + m := by
      have hbits := infiniteBits_eq
      calc code x.abs = code x % 2 ^ 63 := code_abs (isNaN_eq_false h)
        _ = k * 2 ^ 52 + m := by
          rw [hcode, signed]
          split_ifs <;> omega
    obtain ⟨c, cs, y, hbody, hc, hread, hy⟩ := unsigned?_magnitude hm hplace hlt.le habs
    rw [positional, hx]
    simp only [hbody]
    rw [read?_of_isDigit hc hread, eq_of_code hlt.le hcode hy]

end ChartNet.Decimal

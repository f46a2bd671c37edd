import ChartNet.Proofs.ExactArithmetic
import ChartNet.Proofs.WholeDoubles

/-!
# Comparison of whole numbers

Whole numbers are added and subtracted exactly, but they are compared as doubles. Two of them are
therefore compared after rounding (`CompareOp.eval_between`), and the comparisons are those of the
numbers themselves exactly if rounding does not bring the two together (`Confused`).
-/

namespace ChartNet

open Decimal

/-- What a comparison says of two whole numbers, without any rounding. -/
def CompareOp.relates : CompareOp → Int → Int → Bool
  | eq, a, b => a == b
  | strictEq, a, b => a == b
  | ne, a, b => a != b
  | strictNe, a, b => a != b
  | lt, a, b => a < b
  | le, a, b => a ≤ b
  | gt, a, b => a > b
  | ge, a, b => a ≥ b

/-- The tree of a comparison between two names. -/
def CompareOp.between (op : CompareOp) (x y : String) : Expr :=
  .binary (.compare op) (.name x) (.name y)

/-- The numbers are different, but the same double is nearest to both. This can only be so beyond `2
^ 53`. -/
def Confused (a b : Int) : Prop := a ≠ b ∧ nearest a = nearest b

theorem not_confused_iff {a b : Int} : ¬ Confused a b ↔ (nearest a = nearest b → a = b) := by
  simp only [Confused, not_and', ne_eq, not_not]

/-- A comparison holds of an ordering if it holds of the numbers that are so ordered. -/
theorem CompareOp.holds?_compare (op : CompareOp) (a b : Int) :
    op.holds? (some (compare a b)) = some (op.relates a b) := by
  rcases lt_trichotomy a b with h | rfl | h
  · rw [compare_lt_iff_lt.mpr h]
    cases op <;> simp [holds?, relates, bne, h, h.ne, h.le]
  · rw [compare_eq_iff_eq.mpr rfl]
    cases op <;> simp [holds?, relates]
  · rw [compare_gt_iff_gt.mpr h]
    cases op <;> simp [holds?, relates, bne, h, h.ne', h.le]

theorem natAbs_toInt_lt (n : Int64) : n.toInt.natAbs < 2 ^ 64 := by
  have h := fits_toInt n
  rw [Fits] at h
  omega

/-- Rounding keeps the order, so that numbers which it does not bring together are compared as they
are. -/
theorem CompareOp.relates_nearest (op : CompareOp) {a b : Int} (h : ¬ Confused a b) :
    op.relates (nearest a) (nearest b) = op.relates a b := by
  have hlt : ∀ {m n : Int}, ¬ Confused m n → (nearest m < nearest n ↔ m < n) := by
    intro m n hmn
    constructor
    · exact fun hnearest => lt_of_not_ge fun hle => (nearest_mono hle).not_gt hnearest
    · intro hlt
      exact lt_of_le_of_ne (nearest_mono hlt.le) fun heq => hlt.ne (not_confused_iff.mp hmn heq)
  have hcompare : compare (nearest a) (nearest b) = compare a b :=
    compare_eq_compare (hlt h) (hlt fun hba => h ⟨hba.1.symm, hba.2.symm⟩)
  have hholds := op.holds?_compare (nearest a) (nearest b)
  rw [hcompare, op.holds?_compare] at hholds
  exact (Option.some.inj hholds).symm

section Names

variable {env : String → Option Value} {x y : String} {a b : Int64}

/-- Whole numbers are compared after rounding. The operands are evaluated first, and neither of them
can fail. -/
theorem CompareOp.eval_between (op : CompareOp) (hx : env x = some (.integer a))
    (hy : env y = some (.integer b)) :
    (op.between x y).eval env =
      .ok (.boolean (op.relates (nearest a.toInt) (nearest b.toInt))) := by
  have hcompare : Value.compare? (.integer a) (.integer b) =
      some (compare (nearest a.toInt) (nearest b.toInt)) :=
    compareFloats?_ofInt (natAbs_toInt_lt a) (natAbs_toInt_lt b)
  rw [between, Expr.eval, Expr.eval, Expr.eval, hx, hy]
  change CompareOp.apply op (.integer a) (.integer b) = _
  rw [CompareOp.apply, hcompare, holds?_compare]

/-- Subtraction is exact, so that a difference of zero means equal numbers. A difference that does
not fit is refused and is not zero either. -/
theorem eval_sub_eq_zero (hx : env x = some (.integer a)) (hy : env y = some (.integer b))
    (h : Fits (a.toInt - b.toInt)) :
    (Expr.binary (.arithmetic .sub) (.name x) (.name y)).eval env = .ok (.integer 0) ↔
      a.toInt = b.toInt := by
  rw [Expr.eval, Expr.eval, Expr.eval, hx, hy]
  change Value.ofInt (a.toInt - b.toInt) = _ ↔ _
  rw [Value.ofInt_of_fits h]
  constructor
  · intro heq
    have hzero : Int64.ofInt (a.toInt - b.toInt) = 0 := by simpa using heq
    have hdiff := toInt_ofInt_of_fits h
    rw [hzero] at hdiff
    change 0 = _ at hdiff
    omega
  · intro heq
    rw [heq, Int.sub_self]
    rfl

/-- **Whole numbers are compared** after rounding. So all comparisons are those of the numbers, and
equality agrees with subtraction, exactly if the numbers are not confused; up to `2 ^ 53` they are
not. Arithmetic on whole numbers is exact (`whole_exact_or_refused`), which is why the two can
disagree. -/
theorem whole_compared_rounded (hx : env x = some (.integer a)) (hy : env y = some (.integer b)) :
    (∀ op : CompareOp, (op.between x y).eval env =
        .ok (.boolean (op.relates (nearest a.toInt) (nearest b.toInt)))) ∧
      ((∀ op : CompareOp, (op.between x y).eval env =
        .ok (.boolean (op.relates a.toInt b.toInt))) ↔ ¬ Confused a.toInt b.toInt) ∧
      (Fits (a.toInt - b.toInt) →
        (((CompareOp.eq.between x y).eval env = .ok (.boolean true) ↔
          (Expr.binary (.arithmetic .sub) (.name x) (.name y)).eval env = .ok (.integer 0)) ↔
            ¬ Confused a.toInt b.toInt)) ∧
      (a.toInt.natAbs ≤ 2 ^ 53 → b.toInt.natAbs ≤ 2 ^ 53 → ¬ Confused a.toInt b.toInt) := by
  refine ⟨fun op => op.eval_between hx hy, ?_, fun hfits => ?_, fun ha hb => ?_⟩
  · constructor
    · intro h
      -- if the numbers were confused, equality would tell
      have heq := (CompareOp.eq.eval_between hx hy).symm.trans (h .eq)
      rw [not_confused_iff]
      intro hnearest
      simpa [CompareOp.relates, hnearest] using heq
    · intro h op
      rw [op.eval_between hx hy, op.relates_nearest h]
  · have hequal : (CompareOp.eq.between x y).eval env = .ok (.boolean true) ↔
        nearest a.toInt = nearest b.toInt := by
      rw [CompareOp.eval_between .eq hx hy]
      simp [CompareOp.relates]
    rw [not_confused_iff, hequal, eval_sub_eq_zero hx hy hfits]
    exact ⟨Iff.mp, fun h => ⟨h, congrArg nearest⟩⟩
  · rw [not_confused_iff, nearest_of_le ha, nearest_of_le hb]
    exact id

end Names

/-- The name `x` stands for the least positive whole number that is no double, and `y` for the one
before it. -/
def Sample.neighbours (x : String) : Option Value :=
  if x = "x" then some (.integer 9007199254740993)
  else if x = "y" then some (.integer 9007199254740992)
  else none

/-- The two numbers of the sample are neighbours that the same double is nearest to, and so equality
and a difference of zero part ways. -/
theorem whole_compared_rounded_sample :
    Confused 9007199254740993 9007199254740992 ∧
      ¬ ((CompareOp.eq.between "x" "y").eval Sample.neighbours = .ok (.boolean true) ↔
        (Expr.binary (.arithmetic .sub) (.name "x") (.name "y")).eval Sample.neighbours =
          .ok (.integer 0)) := by
  have hconfused : Confused 9007199254740993 9007199254740992 := ⟨by decide, by decide⟩
  obtain ⟨-, -, hsub, -⟩ := @whole_compared_rounded Sample.neighbours "x" "y" 9007199254740993
    9007199254740992 rfl rfl
  exact ⟨hconfused, fun h => (hsub ⟨by decide, by decide⟩).mp h hconfused⟩

/-- The numbers are different and have a difference, but they are found to be equal. -/
theorem neighbours_confused :
    (CompareOp.eq.between "x" "y").eval Sample.neighbours = .ok (.boolean true) ∧
      (CompareOp.gt.between "x" "y").eval Sample.neighbours = .ok (.boolean false) ∧
      (Expr.binary (.arithmetic .sub) (.name "x") (.name "y")).eval Sample.neighbours =
        .ok (.integer 1) := by
  have heval := fun op => @CompareOp.eval_between Sample.neighbours "x" "y" 9007199254740993
    9007199254740992 op rfl rfl
  exact ⟨heval .eq, heval .gt, rfl⟩

end ChartNet

import ChartNet.Proofs.Typing

/-!
# Exact arithmetic

Whole numbers are computed in 64 bits. `Expr.exact` is the value of a tree over the integers, where
nothing is ever too large, and `Expr.Exact` says that the tree can be computed in 64 bits step by
step: the value of every part fits, and every remainder can be taken.

A tree of whole numbers has its exact value if that is so, and otherwise there is a type error
(`Expr.eval_whole`). This is an induction over the tree. A part that does not fit is an error at
once, so that no operator above it can bring its value back into range or go on with a double.
-/

namespace ChartNet

/-! ### Trees of whole numbers -/

/-- The operator gives a whole number for two whole numbers. -/
def ArithmeticOp.isWhole : ArithmeticOp → Bool
  | add | sub | mul | rem => true
  | div | pow => false

/-- The operator on integers. A remainder has the sign of what was divided. Division and powers
leave the whole numbers, and nothing is said about them. -/
def ArithmeticOp.exact : ArithmeticOp → Int → Int → Int
  | add, a, b => a + b
  | sub, a, b => a - b
  | mul, a, b => a * b
  | rem, a, b => a.tmod b
  | div, _, _ | pow, _, _ => 0

namespace Expr

/-- The tree is built from whole numbers, names of whole numbers, parentheses, signs, and the
operators that give whole numbers. -/
inductive Whole (env : String → Option Value) : Expr → Prop
  /-- a whole number that is written out -/
  | integer (n : Int64) : Whole env (.literal (.integer n))
  /-- a name that stands for a whole number -/
  | name {x : String} {n : Int64} (h : env x = some (.integer n)) : Whole env (.name x)
  /-- a tree of whole numbers in parentheses -/
  | parens {e : Expr} (h : Whole env e) : Whole env (.parens e)
  /-- the same number -/
  | plus {e : Expr} (h : Whole env e) : Whole env (.unary .plus e)
  /-- the opposite number -/
  | minus {e : Expr} (h : Whole env e) : Whole env (.unary .minus e)
  /-- an operator that stays within whole numbers -/
  | arithmetic {op : ArithmeticOp} {l r : Expr} (hop : op.isWhole = true) (hl : Whole env l)
      (hr : Whole env r) : Whole env (.binary (.arithmetic op) l r)

/-- The value of a tree of whole numbers over the integers; zero for other trees. No bound is put on
it, and nothing is refused. -/
def exact (env : String → Option Value) : Expr → Int
  | literal (.integer n) => n.toInt
  | name x =>
    match env x with
    | some (.integer n) => n.toInt
    | _ => 0
  | parens e => e.exact env
  | unary .minus e => -e.exact env
  | unary _ e => e.exact env
  | binary (.arithmetic op) l r => op.exact (l.exact env) (r.exact env)
  | _ => 0

/-- The value of the tree fits in 64 bits, and if the tree is a remainder, it can be taken: its
divisor is not zero, and the quotient that belongs to it fits too. -/
def Safe (env : String → Option Value) (e : Expr) : Prop :=
  Fits (e.exact env) ∧ ∀ l r, e = .binary (.arithmetic .rem) l r →
    r.exact env ≠ 0 ∧ ¬ (l.exact env = -2 ^ 63 ∧ r.exact env = -1)

/-- Every part of the tree is safe, the tree itself included. It is not enough that the value of the
whole fits. -/
def Exact (env : String → Option Value) (e : Expr) : Prop :=
  ∀ part : Expr, part.Within e → part.Safe env

/-! ### Parts -/

section Parts

variable {env : String → Option Value} {e l r : Expr}

theorem exact_literal {l : Literal} : (literal l).Exact env ↔ (literal l).Safe env := by
  refine ⟨fun h => h _ (.self _), fun hsafe part hpart => ?_⟩
  cases hpart
  exact hsafe

theorem exact_name {x : String} : (name x).Exact env ↔ (name x).Safe env := by
  refine ⟨fun h => h _ (.self _), fun hsafe part hpart => ?_⟩
  cases hpart
  exact hsafe

theorem exact_parens : (parens e).Exact env ↔ (parens e).Safe env ∧ e.Exact env := by
  refine ⟨fun h => ⟨h _ (.self _), fun part hpart => h part (.parens hpart)⟩, ?_⟩
  rintro ⟨hsafe, he⟩ part hpart
  cases hpart with
  | self => exact hsafe
  | parens hpart => exact he part hpart

/-- The same for an operator and its operand. -/
theorem exact_unary {op : UnaryOp} :
    (unary op e).Exact env ↔ (unary op e).Safe env ∧ e.Exact env := by
  refine ⟨fun h => ⟨h _ (.self _), fun part hpart => h part (.unary op hpart)⟩, ?_⟩
  rintro ⟨hsafe, he⟩ part hpart
  cases hpart with
  | self => exact hsafe
  | unary _ hpart => exact he part hpart

/-- The same for an operator and both its operands. -/
theorem exact_binary {op : BinaryOp} :
    (binary op l r).Exact env ↔ (binary op l r).Safe env ∧ l.Exact env ∧ r.Exact env := by
  refine ⟨fun h => ⟨h _ (.self _), fun part hpart => h part (.left op r hpart),
    fun part hpart => h part (.right op l hpart)⟩, ?_⟩
  rintro ⟨hsafe, hl, hr⟩ part hpart
  cases hpart with
  | self => exact hsafe
  | left _ _ hpart => exact hl part hpart
  | right _ _ hpart => exact hr part hpart

/-- Only of a remainder more is asked than that its value fits. -/
theorem safe_iff_fits (h : ∀ l r, e ≠ .binary (.arithmetic .rem) l r) :
    e.Safe env ↔ Fits (e.exact env) :=
  ⟨And.left, fun hfits => ⟨hfits, fun l r heq => absurd heq (h l r)⟩⟩

end Parts

end Expr

/-! ### Operators -/

/-- A number that fits is kept as it is. -/
theorem toInt_ofInt_of_fits {n : Int} (h : Fits n) : (Int64.ofInt n).toInt = n :=
  Int64.toInt_ofInt_of_le h.1 h.2

/-- What comes of whole numbers: a value if something is safe, and otherwise a type error. It stands
for both directions at once, so that it can be put together along a tree. -/
inductive Settles (outcome : Except ExprFault Value) (Safe : Prop) (n : Int) : Prop
  /-- it is safe, and the outcome is the number -/
  | value (h : outcome = .ok (.integer (Int64.ofInt n))) (hfits : Fits n) (hsafe : Safe) :
      Settles outcome Safe n
  /-- it is not safe, and the outcome is an error -/
  | refused (h : outcome = .error .type) (hnot : ¬ Safe) : Settles outcome Safe n

theorem settles_ofInt (n : Int) : Settles (Value.ofInt n) (Fits n) n := by
  by_cases h : Fits n
  · exact .value (Value.ofInt_of_fits h) h h
  · exact .refused (Value.ofInt_of_not_fits h) h

theorem Settles.congr {x : Except ExprFault Value} {P Q : Prop} {n : Int} (h : Settles x P n)
    (hiff : P ↔ Q) : Settles x Q n := by
  cases h with
  | value h hfits hsafe => exact .value h hfits (hiff.mp hsafe)
  | refused h hnot => exact .refused h (mt hiff.mpr hnot)

/-- Of two steps the second is taken if the first is safe; otherwise its error stays. This is how
the parts of a tree are put together. -/
theorem Settles.bind {x : Except ExprFault Value} {f : Value → Except ExprFault Value}
    {P Q : Prop} {n k : Int} (h : Settles x P n) (hPQ : Q → P)
    (hf : Fits n → P → Settles (f (.integer (Int64.ofInt n))) Q k) : Settles (x >>= f) Q k := by
  cases h with
  | value h hfits hsafe =>
    rw [h]
    exact hf hfits hsafe
  | refused h hnot =>
    rw [h]
    exact .refused rfl (mt hPQ hnot)

/-- A remainder is computed wherever there is one. Where the quotient does not fit, the remainder is
refused although it would be zero. -/
theorem ArithmeticOp.settles_rem (m n : Int64) :
    Settles (apply .rem (.integer m) (.integer n))
      (n.toInt ≠ 0 ∧ ¬ (m.toInt = -2 ^ 63 ∧ n.toInt = -1)) (m.toInt.tmod n.toInt) := by
  rw [apply_rem, Ne, ← not_or]
  by_cases h : n.toInt = 0 ∨ m.toInt = -2 ^ 63 ∧ n.toInt = -1
  · exact .refused (if_pos h) (not_not.mpr h)
  · exact .value (if_neg h) (fits_tmod (fits_toInt m) _) h

theorem UnaryOp.settles_minus {a : Int} (ha : Fits a) :
    Settles (apply .minus (.integer (Int64.ofInt a))) (Fits (-a)) (-a) := by
  have happly : apply .minus (.integer (Int64.ofInt a)) = Value.ofInt (-a) :=
    congrArg (fun n => Value.ofInt (-n)) (toInt_ofInt_of_fits ha)
  rw [happly]
  exact settles_ofInt (-a)

namespace Expr

variable {env : String → Option Value} {e l r : Expr}

/-- An operator is computed if the tree with that operator at its root is safe. The operands are
given by their exact values, which fit. -/
theorem settles_arithmetic {op : ArithmeticOp} (hop : op.isWhole = true)
    (hl : Fits (l.exact env)) (hr : Fits (r.exact env)) :
    Settles (op.apply (.integer (Int64.ofInt (l.exact env))) (.integer (Int64.ofInt (r.exact env))))
      ((binary (.arithmetic op) l r).Safe env) (op.exact (l.exact env) (r.exact env)) := by
  have hplain : ∀ n, op ≠ .rem → n = op.exact (l.exact env) (r.exact env) →
      Settles (Value.ofInt n) ((binary (.arithmetic op) l r).Safe env)
        (op.exact (l.exact env) (r.exact env)) := by
    rintro n hne rfl
    have hsafe : (binary (.arithmetic op) l r).Safe env ↔
        Fits (op.exact (l.exact env) (r.exact env)) := safe_iff_fits (by simp [hne])
    exact (settles_ofInt _).congr hsafe.symm
  -- the operands are computed from what they are in 64 bits
  have hl' := toInt_ofInt_of_fits hl
  have hr' := toInt_ofInt_of_fits hr
  cases op with
  | add => exact hplain _ (by simp) (by rw [hl', hr']; rfl)
  | sub => exact hplain _ (by simp) (by rw [hl', hr']; rfl)
  | mul => exact hplain _ (by simp) (by rw [hl', hr']; rfl)
  | rem =>
    have hsettles :=
      ArithmeticOp.settles_rem (Int64.ofInt (l.exact env)) (Int64.ofInt (r.exact env))
    rw [hl', hr'] at hsettles
    refine hsettles.congr ⟨fun h => ⟨fits_tmod hl _, ?_⟩, fun h => h.2 l r rfl⟩
    intro l' r' heq
    cases heq
    exact h
  | div | pow => cases hop

/-- **What comes of a tree of whole numbers.** The induction is on the tree; at each operator the
parts are settled before it. -/
theorem eval_whole (h : e.Whole env) : Settles (e.eval env) (e.Exact env) (e.exact env) := by
  induction h with
  | integer n =>
    have hsafe : (literal (.integer n)).Safe env := (safe_iff_fits (by simp)).mpr (fits_toInt n)
    refine .value ?_ (fits_toInt n) (exact_literal.mpr hsafe)
    simp only [eval, Literal.value, exact, Int64.ofInt_toInt]
  | @name x n hx =>
    have hexact : (name x).exact env = n.toInt := by simp only [exact, hx]
    have hsafe : (name x).Safe env := (safe_iff_fits (by simp)).mpr (hexact ▸ fits_toInt n)
    refine .value ?_ hsafe.1 (exact_name.mpr hsafe)
    simp only [eval, hx, hexact, Int64.ofInt_toInt]
  | @parens e _ ih =>
    refine ih.congr ⟨fun he => exact_parens.mpr ⟨?_, he⟩, fun h => (exact_parens.mp h).2⟩
    exact (safe_iff_fits (by simp)).mpr (he e (.self e)).1
  | @plus e _ ih =>
    refine ih.bind (fun h => (exact_unary.mp h).2) fun hfits he => ?_
    exact .value rfl hfits (exact_unary.mpr ⟨(safe_iff_fits (by simp)).mpr hfits, he⟩)
  | @minus e _ ih =>
    refine ih.bind (fun h => (exact_unary.mp h).2) fun hfits he => ?_
    refine (UnaryOp.settles_minus hfits).congr ?_
    rw [exact_unary, safe_iff_fits (by simp)]
    exact (and_iff_left he).symm
  | @arithmetic op l r hop _ _ ihl ihr =>
    -- the left operand comes first; if it is refused, so is the tree, and a part of it is not safe
    refine ihl.bind (fun h => (exact_binary.mp h).2.1) fun hlfits hl => ?_
    refine ihr.bind (fun h => (exact_binary.mp h).2.2) fun hrfits hr => ?_
    refine (settles_arithmetic hop hlfits hrfits).congr ?_
    rw [exact_binary]
    exact (and_iff_left ⟨hl, hr⟩).symm

end Expr

/-- **Whole numbers are computed exactly or refused.** A tree of whole numbers has a whole number
for its value exactly if the value of every part over the integers fits in 64 bits and every
remainder in it can be taken; the value is then the one over the integers. In all other cases there
is a type error. -/
theorem whole_exact_or_refused (env : String → Option Value) (e : Expr) (h : e.Whole env) :
    ((∃ n : Int64, e.eval env = .ok (.integer n)) ↔ e.Exact env) ∧
    (∀ n : Int64, e.eval env = .ok (.integer n) → n.toInt = e.exact env) ∧
    (¬ e.Exact env → e.eval env = .error .type) := by
  cases Expr.eval_whole h with
  | value h hfits hexact =>
    rw [h]
    refine ⟨⟨fun _ => hexact, fun _ => ⟨_, rfl⟩⟩, fun n hn => ?_, fun hnot => absurd hexact hnot⟩
    obtain rfl := Value.integer.inj (Except.ok.inj hn)
    exact toInt_ofInt_of_fits hfits
  | refused h hnot =>
    rw [h]
    exact ⟨⟨nofun, fun hexact => absurd hexact hnot⟩, nofun, fun _ => rfl⟩

/-- The tree of `x + 1 - 1`. -/
def Sample.thereAndBack : Expr :=
  .binary (.arithmetic .sub) successor (.literal (.integer 1))

/-- The tree of `-x - 1`. -/
def Sample.opposite : Expr :=
  .binary (.arithmetic .sub) (.unary .minus (.name "x")) (.literal (.integer 1))

open Sample in
/-- A value that would fit is refused because a part of the tree does not fit, and the least number
can be had where no part goes beyond it. -/
theorem whole_exact_or_refused_sample :
    (thereAndBack.exact greatest = 2 ^ 63 - 1 ∧ thereAndBack.eval greatest = .error .type) ∧
    ∃ n : Int64, opposite.eval greatest = .ok (.integer n) ∧ n.toInt = -2 ^ 63 := by
  have hname : Expr.Whole greatest (.name "x") := .name rfl
  constructor
  · have hwhole : thereAndBack.Whole greatest :=
      .arithmetic rfl (.arithmetic rfl hname (.integer 1)) (.integer 1)
    refine ⟨rfl, (whole_exact_or_refused _ _ hwhole).2.2 fun hexact => ?_⟩
    -- the value of the whole tree fits, that of the sum in it does not
    obtain ⟨⟨-, hlt⟩, -⟩ := hexact successor (.left _ _ (.self _))
    exact absurd hlt (by decide)
  · have hwhole : opposite.Whole greatest := .arithmetic rfl (.minus hname) (.integer 1)
    have heval : opposite.eval greatest = .ok (.integer Int64.minValue) := rfl
    exact ⟨_, heval, (whole_exact_or_refused _ _ hwhole).2.1 _ heval⟩

end ChartNet

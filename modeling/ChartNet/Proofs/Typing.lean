import ChartNet.Proofs.FloatOrder
import ChartNet.Proofs.Outcome

/-!
# Types of expressions

Types are given to trees without evaluating them: `HasType` says what a tree has to do with the
types of its names, and `UnaryOp.Takes` and `BinaryOp.Takes` are the signatures of the operators.

A tree that has a type may still have no value, because an operator refuses operands of the right
types (`UnaryOp.Refuses`, `BinaryOp.Refuses`): whole numbers whose result does not fit in 64 bits,
and an order that is asked of something that is not a number. `Verdict` says that nothing else can
happen. It is shown for each operator, and carried over to trees by induction
(`Expr.verdict`), because operands are always evaluated, also those that do not matter.
-/

namespace ChartNet

/-! ### Types and signatures -/

/-- The types of values. Whole numbers and doubles are both numbers. -/
inductive ValueType where
  /-- true and false -/
  | boolean
  /-- whole numbers and doubles; the types do not tell them apart -/
  | number
  /-- texts -/
  | text
deriving DecidableEq, Repr

/-- The type of a value. -/
def Value.type : Value → ValueType
  | boolean _ => .boolean
  | integer _ => .number
  | float _ => .number
  | string _ => .text

/-- The comparison asks which of two values comes first, and not only whether they are equal. -/
def CompareOp.isOrder : CompareOp → Bool
  | lt | le | gt | ge => true
  | eq | strictEq | ne | strictNe => false

/-- The signatures of operators before one operand. -/
inductive UnaryOp.Takes : UnaryOp → ValueType → ValueType → Prop
  /-- the opposite of a number -/
  | minus : Takes .minus .number .number
  /-- a number as it is -/
  | plus : Takes .plus .number .number
  /-- the opposite of a truth value -/
  | not : Takes .not .boolean .boolean

/-- The signatures of operators between two operands. -/
inductive BinaryOp.Takes : BinaryOp → ValueType → ValueType → ValueType → Prop
  /-- texts are added by writing one behind the other -/
  | join : Takes (.arithmetic .add) .text .text .text
  /-- all arithmetic on numbers -/
  | arithmetic (op : ArithmeticOp) : Takes (.arithmetic op) .number .number .number
  /-- values of any two types may be equal or not -/
  | equality {op : CompareOp} (h : op.isOrder = false) (T T' : ValueType) :
      Takes (.compare op) T T' .boolean
  /-- an order is asked of values of the same type -/
  | order {op : CompareOp} (h : op.isOrder = true) (T : ValueType) :
      Takes (.compare op) T T .boolean
  /-- truth values are combined -/
  | logic (op : LogicOp) : Takes (.logic op) .boolean .boolean .boolean

/-- The tree has a type, if its names have the given ones. There are no rules for constructs that
are not evaluated, and no type goes over into another one. -/
inductive HasType (Γ : String → Option ValueType) : Expr → ValueType → Prop
  /-- a truth value that is written out -/
  | boolean (b : Bool) : HasType Γ (.literal (.boolean b)) .boolean
  /-- a whole number that is written out -/
  | integer (n : Int64) : HasType Γ (.literal (.integer n)) .number
  /-- a double that is written out -/
  | number (x : Float) : HasType Γ (.literal (.number x)) .number
  /-- a text that is written out -/
  | text (s : String) : HasType Γ (.literal (.text s)) .text
  /-- a name has the type that is given for it -/
  | name {x : String} {T : ValueType} (h : Γ x = some T) : HasType Γ (.name x) T
  /-- parentheses change nothing -/
  | parens {e : Expr} {T : ValueType} (h : HasType Γ e T) : HasType Γ (.parens e) T
  /-- an operator that takes the type of its operand -/
  | unary {op : UnaryOp} {e : Expr} {T U : ValueType} (h : HasType Γ e T) (hop : op.Takes T U) :
      HasType Γ (.unary op e) U
  /-- an operator that takes the types of its operands -/
  | binary {op : BinaryOp} {l r : Expr} {T T' U : ValueType} (hl : HasType Γ l T)
      (hr : HasType Γ r T') (hop : op.Takes T T' U) : HasType Γ (.binary op l r) U

theorem UnaryOp.Takes.unique {op : UnaryOp} {T U U' : ValueType} (h : op.Takes T U)
    (h' : op.Takes T U') : U = U' := by
  cases h <;> cases h' <;> rfl

/-- The types of the operands determine that of the result. Addition has two signatures, but they
differ in the types of the operands. -/
theorem BinaryOp.Takes.unique {op : BinaryOp} {T T' U U' : ValueType} (h : op.Takes T T' U)
    (h' : op.Takes T T' U') : U = U' := by
  cases h <;> cases h' <;> rfl

/-- A tree has one type at most. The induction is on the tree: literals and names have one type, and
operators give one for the types of their operands. -/
theorem HasType.unique {Γ : String → Option ValueType} {e : Expr} {T T' : ValueType}
    (h : HasType Γ e T) (h' : HasType Γ e T') : T = T' := by
  induction h generalizing T' with
  | boolean | integer | number | text =>
    cases h'
    rfl
  | name h =>
    cases h' with
    | name h' => exact Option.some.inj (h.symm.trans h')
  | parens _ ih =>
    cases h' with
    | parens h' => exact ih h'
  | unary _ hop ih =>
    cases h' with
    | unary h' hop' =>
      obtain rfl := ih h'
      exact hop.unique hop'
  | binary _ _ hop ihl ihr =>
    cases h' with
    | binary hl' hr' hop' =>
      obtain rfl := ihl hl'
      obtain rfl := ihr hr'
      exact hop.unique hop'

/-! ### What is refused in spite of its type -/

/-- The whole number fits in 64 bits. -/
def Fits (n : Int) : Prop := -2 ^ 63 ≤ n ∧ n < 2 ^ 63

/-- The value is a double that is not a number. -/
def Value.IsNaN (v : Value) : Prop := ∃ x, v = .float x ∧ x.isNaN = true

/-- The operator has no value for this operand, although it takes operands of its type. -/
inductive UnaryOp.Refuses : UnaryOp → Value → Prop
  /-- the opposite of the least whole number does not fit -/
  | minus {n : Int64} (h : ¬ Fits (-n.toInt)) : Refuses .minus (.integer n)

/-- The operator has no value for these operands, although it takes operands of their types. -/
inductive BinaryOp.Refuses : BinaryOp → Value → Value → Prop
  /-- the sum does not fit -/
  | add {m n : Int64} (h : ¬ Fits (m.toInt + n.toInt)) :
      Refuses (.arithmetic .add) (.integer m) (.integer n)
  /-- the difference does not fit -/
  | sub {m n : Int64} (h : ¬ Fits (m.toInt - n.toInt)) :
      Refuses (.arithmetic .sub) (.integer m) (.integer n)
  /-- the product does not fit -/
  | mul {m n : Int64} (h : ¬ Fits (m.toInt * n.toInt)) :
      Refuses (.arithmetic .mul) (.integer m) (.integer n)
  /-- the remainder by zero, and the one that comes from a quotient which does not fit -/
  | rem {m n : Int64} (h : n.toInt = 0 ∨ m.toInt = -2 ^ 63 ∧ n.toInt = -1) :
      Refuses (.arithmetic .rem) (.integer m) (.integer n)
  /-- what is no number has no place in the order -/
  | order {op : CompareOp} {v w : Value} (hop : op.isOrder = true) (hv : v.type = .number)
      (hw : w.type = .number) (h : v.IsNaN ∨ w.IsNaN) : Refuses (.compare op) v w

namespace Expr

/-- The first tree is the second one or a part of it. -/
inductive Within : Expr → Expr → Prop
  /-- the tree itself -/
  | self (e : Expr) : Within e e
  /-- a part inside parentheses -/
  | parens {e e' : Expr} (h : Within e e') : Within e (.parens e')
  /-- a part of the operand -/
  | unary {e e' : Expr} (op : UnaryOp) (h : Within e e') : Within e (.unary op e')
  /-- a part of the left operand -/
  | left {e l : Expr} (op : BinaryOp) (r : Expr) (h : Within e l) : Within e (.binary op l r)
  /-- a part of the right operand -/
  | right {e r : Expr} (op : BinaryOp) (l : Expr) (h : Within e r) : Within e (.binary op l r)

/-- The operator at the root of the tree refuses the values of its operands. -/
inductive Refused (env : String → Option Value) : Expr → Prop
  /-- the operand has a value, but the operator refuses it -/
  | unary {op : UnaryOp} {e : Expr} {v : Value} (h : e.eval env = .ok v) (hop : op.Refuses v) :
      Refused env (.unary op e)
  /-- both operands have values, but the operator refuses them -/
  | binary {op : BinaryOp} {l r : Expr} {v w : Value} (hl : l.eval env = .ok v)
      (hr : r.eval env = .ok w) (hop : op.Refuses v w) : Refused env (.binary op l r)

/-- Some part of the tree is refused. That part is the innermost such one: its operands have values,
so that nothing in them is refused. -/
def HasRefused (env : String → Option Value) (e : Expr) : Prop :=
  ∃ part : Expr, part.Within e ∧ part.Refused env

end Expr

/-- What can come out where some types are given and something may be refused: a value of a type
that is given, or a type error; and there is an error if something is refused or no type is
given. -/
inductive Verdict (outcome : Except ExprFault Value) (Gives : ValueType → Prop) (Refuses : Prop) :
    Prop
  /-- there is a value, of the type that is due, and nothing is refused -/
  | value {v : Value} (h : outcome = .ok v) (htype : Gives v.type) (hnot : ¬ Refuses) :
      Verdict outcome Gives Refuses
  /-- something is refused -/
  | refused (h : outcome = .error .type) (hrefuses : Refuses) : Verdict outcome Gives Refuses
  /-- there is no type, and so no value -/
  | untyped (h : outcome = .error .type) (htype : ∀ T, ¬ Gives T) : Verdict outcome Gives Refuses

/-! ### Whole numbers -/

theorem fits_toInt (n : Int64) : Fits n.toInt := ⟨n.le_toInt, n.toInt_lt⟩

theorem Value.ofInt_of_fits {n : Int} (h : Fits n) :
    Value.ofInt n = .ok (.integer (Int64.ofInt n)) := by
  obtain ⟨hmin, hmax⟩ := h
  exact if_pos ⟨hmin, Int.le_of_lt_add_one hmax⟩

theorem Value.ofInt_of_not_fits {n : Int} (h : ¬ Fits n) : Value.ofInt n = .error .type := by
  refine if_neg fun hfits => h ⟨hfits.1, ?_⟩
  exact Int.lt_add_one_of_le hfits.2

/-- A remainder has the sign of what was divided, and is not larger. -/
theorem fits_tmod {m : Int} (h : Fits m) (n : Int) : Fits (m.tmod n) := by
  obtain ⟨hmin, hmax⟩ := h
  have habs := Int.natAbs_tmod m n
  have hle := Nat.mod_le m.natAbs n.natAbs
  have hneg := Int.neg_tmod m n
  rcases Int.le_total 0 m with hm | hm
  · have hsign := Int.tmod_nonneg n hm
    exact ⟨by omega, by omega⟩
  · have hsign := Int.tmod_nonneg n (Int.neg_nonneg.mpr hm)
    exact ⟨by omega, by omega⟩

/-- An operation on whole numbers is refused if its exact result does not fit. Addition, subtraction
and multiplication are cases of this. -/
theorem verdict_ofInt {n : Int} {Gives : ValueType → Prop} {Refuses : Prop}
    (htype : Gives .number) (hrefuses : Refuses ↔ ¬ Fits n) :
    Verdict (Value.ofInt n) Gives Refuses := by
  by_cases h : Fits n
  · exact .value (Value.ofInt_of_fits h) htype fun hr => hrefuses.mp hr h
  · exact .refused (Value.ofInt_of_not_fits h) (hrefuses.mpr h)

/-! ### Operators -/

/-- The literal has a value. -/
def Literal.isSupported : Literal → Bool
  | boolean _ | integer _ | number _ | text _ => true
  | brokenText | bigInteger | null => false

/-- The operator is evaluated. -/
def UnaryOp.isSupported : UnaryOp → Bool
  | minus | plus | not => true
  | typeof | void | complement | delete => false

/-- The operator is evaluated. -/
def BinaryOp.isSupported : BinaryOp → Bool
  | arithmetic _ | compare _ | logic _ => true
  | refused _ => false

/-- What comes of an operator with one operand. -/
theorem UnaryOp.verdict {op : UnaryOp} (hop : op.isSupported = true) (v : Value) :
    Verdict (op.apply v) (op.Takes v.type) (op.Refuses v) := by
  cases op with
  | minus =>
    cases v with
    | integer n =>
      refine verdict_ofInt .minus ⟨fun h => ?_, .minus⟩
      cases h with
      | minus h => exact h
    | float x => exact .value rfl .minus nofun
    | boolean b => exact .untyped rfl nofun
    | string s => exact .untyped rfl nofun
  | plus =>
    cases v with
    | integer n => exact .value rfl .plus nofun
    | float x => exact .value rfl .plus nofun
    | boolean b => exact .untyped rfl nofun
    | string s => exact .untyped rfl nofun
  | not =>
    cases v with
    | boolean b => exact .value rfl .not nofun
    | integer n => exact .untyped rfl nofun
    | float x => exact .untyped rfl nofun
    | string s => exact .untyped rfl nofun
  | typeof | void | complement | delete => cases hop

/-- The remainder of a number that fits always fits, so that only its being there is in question. -/
theorem ArithmeticOp.apply_rem (m n : Int64) :
    apply .rem (.integer m) (.integer n) =
      if n.toInt = 0 ∨ m.toInt = -2 ^ 63 ∧ n.toInt = -1 then .error .type
      else .ok (.integer (Int64.ofInt (m.toInt.tmod n.toInt))) := by
  by_cases h : n.toInt = 0 ∨ m.toInt = -2 ^ 63 ∧ n.toInt = -1
  · have hnone : onIntegers .rem m.toInt n.toInt = some (.error .type) := if_pos h
    rw [if_pos h]
    simp only [apply, hnone]
  · have hsome : onIntegers .rem m.toInt n.toInt = some (.ok (.integer _)) :=
      (if_neg h).trans (congrArg some (Value.ofInt_of_fits (fits_tmod (fits_toInt m) _)))
    rw [if_neg h]
    simp only [apply, hsome]

/-- What comes of arithmetic on two whole numbers. Division and powers are computed with doubles,
and so are never refused. -/
theorem ArithmeticOp.verdict_integers (op : ArithmeticOp) (m n : Int64) :
    Verdict (op.apply (.integer m) (.integer n))
      (BinaryOp.Takes (.arithmetic op) .number .number)
      (BinaryOp.Refuses (.arithmetic op) (.integer m) (.integer n)) := by
  cases op with
  | add =>
    refine verdict_ofInt (.arithmetic .add) ⟨fun h => ?_, .add⟩
    cases h with
    | add h => exact h
  | sub =>
    refine verdict_ofInt (.arithmetic .sub) ⟨fun h => ?_, .sub⟩
    cases h with
    | sub h => exact h
  | mul =>
    refine verdict_ofInt (.arithmetic .mul) ⟨fun h => ?_, .mul⟩
    cases h with
    | mul h => exact h
  | rem =>
    by_cases h : n.toInt = 0 ∨ m.toInt = -2 ^ 63 ∧ n.toInt = -1
    · exact .refused ((apply_rem m n).trans (if_pos h)) (.rem h)
    · refine .value ((apply_rem m n).trans (if_neg h)) (.arithmetic .rem) fun hr => ?_
      cases hr with
      | rem hr => exact h hr
  | div => exact .value rfl (.arithmetic .div) nofun
  | pow => exact .value rfl (.arithmetic .pow) nofun

/-- What comes of arithmetic on any two values. Where one of them is a double, both are computed
with as doubles. -/
theorem ArithmeticOp.verdict (op : ArithmeticOp) (l r : Value) :
    Verdict (op.apply l r) (BinaryOp.Takes (.arithmetic op) l.type r.type)
      (BinaryOp.Refuses (.arithmetic op) l r) := by
  cases l with
  | integer m =>
    cases r with
    | integer n => exact op.verdict_integers m n
    | float y => exact .value rfl (.arithmetic op) nofun
    | boolean b => exact .untyped rfl nofun
    | string t => exact .untyped rfl nofun
  | float x =>
    cases r with
    | integer n => exact .value rfl (.arithmetic op) nofun
    | float y => exact .value rfl (.arithmetic op) nofun
    | boolean b => exact .untyped rfl nofun
    | string t => exact .untyped rfl nofun
  | string s =>
    cases r with
    | string t =>
      cases op with
      | add => exact .value rfl .join nofun
      | sub | mul | div | rem | pow => exact .untyped rfl nofun
    | boolean b => exact .untyped rfl nofun
    | integer n => exact .untyped rfl nofun
    | float y => exact .untyped rfl nofun
  | boolean a => cases r <;> exact .untyped rfl nofun

/-- A number as a double; a whole number never becomes something that is not a number. -/
theorem Value.exists_asFloat? {v : Value} (h : v.type = .number) :
    ∃ x, v.asFloat? = some x ∧ (x.isNaN = true ↔ v.IsNaN) := by
  cases v with
  | integer n =>
    refine ⟨Float.ofInt n.toInt, rfl, ?_⟩
    rw [Decimal.isNaN_ofInt]
    exact ⟨nofun, nofun⟩
  | float x =>
    refine ⟨x, rfl, fun hnan => ⟨x, rfl, hnan⟩, ?_⟩
    rintro ⟨y, hy, hnan⟩
    obtain rfl := Value.float.inj hy
    exact hnan
  | boolean b => cases h
  | string s => cases h

/-- Numbers can be compared unless one of them is none. -/
theorem Value.compare?_numbers {v w : Value} (hv : v.type = .number) (hw : w.type = .number) :
    v.compare? w = none ↔ v.IsNaN ∨ w.IsNaN := by
  obtain ⟨x, hx, hxnan⟩ := exists_asFloat? hv
  obtain ⟨y, hy, hynan⟩ := exists_asFloat? hw
  have hcompare : v.compare? w = compareFloats? x y := by
    cases v <;> cases hv <;> cases w <;> cases hw <;> cases hx <;> cases hy <;> rfl
  rw [hcompare, ← Option.isNone_iff_eq_none, Decimal.isNone_compareFloats?, Bool.or_eq_true, hxnan,
    hynan]

theorem Value.compare?_of_type_ne {v w : Value} (h : v.type ≠ w.type) : v.compare? w = none := by
  cases v <;> cases w <;> simp [type, compare?, asFloat?] at h ⊢

theorem Value.exists_compare? {v w : Value} (h : v.type = w.type) (hv : v.type ≠ .number) :
    ∃ o, v.compare? w = some o := by
  cases v <;> cases w <;> simp [type, compare?] at h hv ⊢

theorem CompareOp.exists_holds? {op : CompareOp} (h : op.isOrder = false) (o : Option Ordering) :
    ∃ b, op.holds? o = some b := by
  cases op with
  | eq | strictEq | ne | strictNe => exact ⟨_, rfl⟩
  | lt | le | gt | ge => cases h

theorem CompareOp.holds?_some (op : CompareOp) (o : Ordering) :
    ∃ b, op.holds? (some o) = some b := by
  cases op <;> exact ⟨_, rfl⟩

theorem CompareOp.holds?_none {op : CompareOp} (h : op.isOrder = true) : op.holds? none = none := by
  cases op with
  | eq | strictEq | ne | strictNe => cases h
  | lt | le | gt | ge => rfl

/-- An order is asked of values of one type. -/
theorem BinaryOp.Takes.eq_of_order {op : CompareOp} {T T' U : ValueType}
    (h : BinaryOp.Takes (.compare op) T T' U) (hop : op.isOrder = true) : T = T' := by
  cases h with
  | equality hop' => cases hop.symm.trans hop'
  | order => rfl

/-- What comes of a comparison. Equality gives an answer for any two values, an order only for
values of one type that can be compared. -/
theorem CompareOp.verdict (op : CompareOp) (v w : Value) :
    Verdict (op.apply v w) (BinaryOp.Takes (.compare op) v.type w.type)
      (BinaryOp.Refuses (.compare op) v w) := by
  cases hop : op.isOrder with
  | false =>
    obtain ⟨b, hb⟩ := exists_holds? hop (v.compare? w)
    have happly : op.apply v w = .ok (.boolean b) := by simp only [apply, hb]
    refine .value happly (.equality hop _ _) fun hr => ?_
    cases hr with
    | order hop' => cases hop.symm.trans hop'
  | true =>
    -- an order is refused between two types, and between numbers that cannot be compared
    by_cases htype : v.type = w.type
    · cases hcompare : v.compare? w with
      | some o =>
        obtain ⟨b, hb⟩ := op.holds?_some o
        have happly : op.apply v w = .ok (.boolean b) := by simp only [apply, hcompare, hb]
        refine .value happly (htype ▸ .order hop v.type) fun hr => ?_
        cases hr with
        | order _ hv hw hnan =>
          cases hcompare.symm.trans ((Value.compare?_numbers hv hw).mpr hnan)
      | none =>
        have hv : v.type = .number := by
          by_contra hv
          obtain ⟨o, ho⟩ := Value.exists_compare? htype hv
          cases hcompare.symm.trans ho
        have hw : w.type = .number := htype ▸ hv
        have happly : op.apply v w = .error .type := by
          simp only [apply, hcompare, holds?_none hop]
        exact .refused happly (.order hop hv hw ((Value.compare?_numbers hv hw).mp hcompare))
    · have happly : op.apply v w = .error .type := by
        simp only [apply, Value.compare?_of_type_ne htype, holds?_none hop]
      exact .untyped happly fun T h => htype (h.eq_of_order hop)

/-- What comes of combining two truth values. Both operands have to be truth values, even where one
would decide. -/
theorem LogicOp.verdict (op : LogicOp) (v w : Value) :
    Verdict (op.apply v w) (BinaryOp.Takes (.logic op) v.type w.type)
      (BinaryOp.Refuses (.logic op) v w) := by
  cases v with
  | boolean a =>
    cases w with
    | boolean b => cases op <;> exact .value rfl (.logic _) nofun
    | integer n => cases op <;> exact .untyped rfl nofun
    | float y => cases op <;> exact .untyped rfl nofun
    | string t => cases op <;> exact .untyped rfl nofun
  | integer m => cases op <;> exact .untyped rfl nofun
  | float x => cases op <;> exact .untyped rfl nofun
  | string s => cases op <;> exact .untyped rfl nofun

/-- What comes of an operator with two operands. -/
theorem BinaryOp.verdict {op : BinaryOp} (hop : op.isSupported = true) (v w : Value) :
    Verdict (op.apply v w) (op.Takes v.type w.type) (op.Refuses v w) := by
  cases op with
  | arithmetic op => exact op.verdict v w
  | compare op => exact op.verdict v w
  | logic op => exact op.verdict v w
  | refused op => cases hop

/-! ### Trees -/

/-- The tree is made of constructs that are evaluated. Other syntax can be parsed but has no value,
whatever its parts are. -/
def Expr.isSupported : Expr → Bool
  | literal l => l.isSupported
  | name _ => true
  | parens e => e.isSupported
  | unary op e => op.isSupported && e.isSupported
  | binary op l r => op.isSupported && l.isSupported && r.isSupported
  | other _ => false

/-- Every name in the tree has a value. The type of a name is that of its value. -/
def Expr.Bound (env : String → Option Value) (e : Expr) : Prop :=
  ∀ x ∈ e.names, ∃ v, env x = some v

/-- The types of the names that have values. -/
def typesIn (env : String → Option Value) (x : String) : Option ValueType := (env x).map Value.type

theorem Verdict.congr {x : Except ExprFault Value} {Gives Gives' : ValueType → Prop}
    {Refuses Refuses' : Prop} (h : Verdict x Gives Refuses) (hgives : ∀ T, Gives T ↔ Gives' T)
    (hrefuses : Refuses ↔ Refuses') : Verdict x Gives' Refuses' := by
  cases h with
  | value h htype hnot => exact .value h ((hgives _).mp htype) (mt hrefuses.mpr hnot)
  | refused h hr => exact .refused h (hrefuses.mp hr)
  | untyped h hno => exact .untyped h fun T hT => hno T ((hgives T).mpr hT)

/-- Of two steps the second is taken if the first gives a value; otherwise its error stays. This is
how the verdicts of operands and operator are put together. -/
theorem Verdict.bind {x : Except ExprFault Value} {f : Value → Except ExprFault Value}
    {Gives Gives' : ValueType → Prop} {Refuses Refuses' : Prop} (h : Verdict x Gives Refuses)
    (hrefuses : Refuses → Refuses') (hgives : ∀ U, Gives' U → ∃ T, Gives T)
    (hf : ∀ v, x = .ok v → Gives v.type → ¬ Refuses → Verdict (f v) Gives' Refuses') :
    Verdict (x >>= f) Gives' Refuses' := by
  cases h with
  | value h htype hnot =>
    rw [h]
    exact hf _ h htype hnot
  | refused h hr =>
    rw [h]
    exact .refused rfl (hrefuses hr)
  | untyped h hno =>
    rw [h]
    refine .untyped rfl fun U hU => ?_
    obtain ⟨T, hT⟩ := hgives U hU
    exact hno T hT

section Trees

variable {Γ : String → Option ValueType} {env : String → Option Value} {e l r : Expr}

theorem hasType_parens {T : ValueType} : HasType Γ e T ↔ HasType Γ (.parens e) T := by
  refine ⟨.parens, fun h => ?_⟩
  cases h with
  | parens h => exact h

theorem hasType_unary {op : UnaryOp} {T U : ValueType} (he : HasType Γ e T) :
    op.Takes T U ↔ HasType Γ (.unary op e) U := by
  refine ⟨.unary he, fun h => ?_⟩
  cases h with
  | unary he' hop =>
    obtain rfl := he.unique he'
    exact hop

theorem hasType_binary {op : BinaryOp} {T T' U : ValueType} (hl : HasType Γ l T)
    (hr : HasType Γ r T') : op.Takes T T' U ↔ HasType Γ (.binary op l r) U := by
  refine ⟨.binary hl hr, fun h => ?_⟩
  cases h with
  | binary hl' hr' hop =>
    obtain rfl := hl.unique hl'
    obtain rfl := hr.unique hr'
    exact hop

namespace Expr

theorem HasRefused.imp {e' : Expr} (hwithin : ∀ part : Expr, part.Within e → part.Within e')
    (h : e.HasRefused env) : e'.HasRefused env := by
  obtain ⟨part, hpart, hrefused⟩ := h
  exact ⟨part, hwithin part hpart, hrefused⟩

theorem hasRefused_parens : e.HasRefused env ↔ (parens e).HasRefused env := by
  refine ⟨.imp fun _ => .parens, ?_⟩
  rintro ⟨part, hwithin, hpart⟩
  cases hwithin with
  | self => cases hpart
  | parens hwithin => exact ⟨part, hwithin, hpart⟩

/-- If nothing in the operand is refused, it is the operator that refuses. -/
theorem hasRefused_unary {op : UnaryOp} {v : Value} (he : e.eval env = .ok v)
    (hnot : ¬ e.HasRefused env) : op.Refuses v ↔ (unary op e).HasRefused env := by
  refine ⟨?_, ?_⟩
  · exact fun h => ⟨_, .self _, .unary he h⟩
  · rintro ⟨part, hwithin, hpart⟩
    cases hwithin with
    | self =>
      cases hpart with
      | unary he' h =>
        cases he.symm.trans he'
        exact h
    | unary _ hwithin => exact absurd ⟨part, hwithin, hpart⟩ hnot

/-- If nothing in the operands is refused, it is the operator that refuses. -/
theorem hasRefused_binary {op : BinaryOp} {v w : Value} (hl : l.eval env = .ok v)
    (hr : r.eval env = .ok w) (hlnot : ¬ l.HasRefused env) (hrnot : ¬ r.HasRefused env) :
    op.Refuses v w ↔ (binary op l r).HasRefused env := by
  refine ⟨?_, ?_⟩
  · exact fun h => ⟨_, .self _, .binary hl hr h⟩
  · rintro ⟨part, hwithin, hpart⟩
    cases hwithin with
    | self =>
      cases hpart with
      | binary hl' hr' h =>
        cases hl.symm.trans hl'
        cases hr.symm.trans hr'
        exact h
    | left _ _ hwithin => exact absurd ⟨part, hwithin, hpart⟩ hlnot
    | right _ _ hwithin => exact absurd ⟨part, hwithin, hpart⟩ hrnot

theorem not_hasRefused_literal (l : Literal) : ¬ (literal l).HasRefused env := by
  rintro ⟨part, hwithin, hpart⟩
  cases hwithin
  cases hpart

theorem not_hasRefused_name (x : String) : ¬ (name x).HasRefused env := by
  rintro ⟨part, hwithin, hpart⟩
  cases hwithin
  cases hpart

/-- **What comes of a tree**, if its constructs are evaluated and its names have values. The
induction is on the tree, with `Verdict.bind` once for each operand. -/
theorem verdict (hsupported : e.isSupported = true) (hbound : e.Bound env) :
    Verdict (e.eval env) (HasType (typesIn env) e) (e.HasRefused env) := by
  induction e with
  | literal l =>
    cases l with
    | boolean b => exact .value rfl (.boolean b) (not_hasRefused_literal _)
    | integer n => exact .value rfl (.integer n) (not_hasRefused_literal _)
    | number x => exact .value rfl (.number x) (not_hasRefused_literal _)
    | text s => exact .value rfl (.text s) (not_hasRefused_literal _)
    | brokenText | bigInteger | null => cases hsupported
  | name x =>
    obtain ⟨v, hv⟩ := hbound x (List.mem_singleton_self x)
    have heval : (name x).eval env = .ok v := by simp only [eval, hv]
    have htype : typesIn env x = some v.type := congrArg (Option.map Value.type) hv
    exact .value heval (.name htype) (not_hasRefused_name x)
  | parens e ih =>
    have hverdict := ih hsupported hbound
    exact hverdict.congr (fun _ => hasType_parens) hasRefused_parens
  | unary op e ih =>
    obtain ⟨hop, he⟩ := Bool.and_eq_true_iff.mp hsupported
    have hverdict := ih he hbound
    refine hverdict.bind (.imp fun _ => .unary op) (fun U hU => ?_) fun v hv htype hnot => ?_
    · cases hU with
      | unary he _ => exact ⟨_, he⟩
    · exact (op.verdict hop v).congr (fun _ => hasType_unary htype) (hasRefused_unary hv hnot)
  | binary op l r ihl ihr =>
    obtain ⟨hlop, hr⟩ := Bool.and_eq_true_iff.mp hsupported
    obtain ⟨hop, hl⟩ := Bool.and_eq_true_iff.mp hlop
    have hlverdict := ihl hl fun x hx => hbound x (List.mem_append_left _ hx)
    have hrverdict := ihr hr fun x hx => hbound x (List.mem_append_right _ hx)
    -- the left operand is evaluated first, and the right one only where the left one has a value
    refine hlverdict.bind (.imp fun _ => .left op r) (fun U hU => ?_) fun v hv hvtype hlnot => ?_
    · cases hU with
      | binary hl _ _ => exact ⟨_, hl⟩
    refine hrverdict.bind (.imp fun _ => .right op l) (fun U hU => ?_) fun w hw hwtype hrnot => ?_
    · cases hU with
      | binary _ hr _ => exact ⟨_, hr⟩
    exact (op.verdict hop v w).congr (fun _ => hasType_binary hvtype hwtype)
      (hasRefused_binary hv hw hlnot hrnot)
  | other c => cases hsupported

end Expr

end Trees

/-- **Evaluation respects types.** Let the tree be made of constructs that are evaluated, and let
its names have values. If it has a type, it has a value of that type or there is a type error, and
the error is there exactly if an operator in it refuses the values of its operands. If it has no
type, there is a type error. No other error is possible. -/
theorem eval_typed (env : String → Option Value) (e : Expr) (hsupported : e.isSupported = true)
    (hbound : e.Bound env) :
    (∀ T, HasType (typesIn env) e T →
      ((∃ v : Value, e.eval env = .ok v ∧ v.type = T) ∨ e.eval env = .error .type) ∧
      (e.eval env = .error .type ↔ e.HasRefused env)) ∧
    ((¬ ∃ T, HasType (typesIn env) e T) → e.eval env = .error .type) ∧
    ∀ fault, e.eval env = .error fault → fault = .type := by
  cases Expr.verdict hsupported hbound with
  | value h htype hnot =>
    rw [h]
    refine ⟨fun T hT => ⟨.inl ⟨_, rfl, htype.unique hT⟩, nofun, fun hr => absurd hr hnot⟩, ?_,
      nofun⟩
    exact fun hno => absurd ⟨_, htype⟩ hno
  | refused h hr =>
    rw [h]
    exact ⟨fun T _ => ⟨.inr rfl, fun _ => hr, fun _ => rfl⟩, fun _ => rfl,
      fun fault hfault => (Except.error.inj hfault).symm⟩
  | untyped h hno =>
    rw [h]
    exact ⟨fun T hT => absurd hT (hno T), fun _ => rfl,
      fun fault hfault => (Except.error.inj hfault).symm⟩

/-- The name `x` stands for the greatest whole number. -/
def Sample.greatest (x : String) : Option Value :=
  if x = "x" then some (.integer Int64.maxValue) else none

/-- The tree of `x + 1`. -/
def Sample.successor : Expr := .binary (.arithmetic .add) (.name "x") (.literal (.integer 1))

/-- The tree of `x < y`, where `y` is a number that is none. -/
def Sample.unordered : Expr :=
  .binary (.compare .lt) (.name "x") (.literal (.number (0.0 / 0.0)))

/-- The tree of `!x`. -/
def Sample.denial : Expr := .unary .not (.name "x")

open Sample in
/-- Two trees that have a type, and in which an operator refuses its operands: the first by what it
gives, the second by what is refused in it. The third tree has no type. -/
theorem eval_typed_sample :
    (HasType (typesIn greatest) successor .number ∧ successor.HasRefused greatest) ∧
    (HasType (typesIn greatest) unordered .boolean ∧ unordered.eval greatest = .error .type) ∧
    (¬ ∃ T, HasType (typesIn greatest) denial T) ∧ denial.eval greatest = .error .type := by
  have hbound : ∀ e : Expr, e.names = ["x"] → e.Bound greatest := by
    intro e he x hx
    rw [he] at hx
    obtain rfl := List.mem_singleton.mp hx
    exact ⟨_, rfl⟩
  refine ⟨?_, ?_, ?_⟩
  · have htype : HasType (typesIn greatest) successor .number :=
      .binary (.name rfl) (.integer 1) (.arithmetic .add)
    have hfits : ¬ Fits (Int64.maxValue.toInt + Int64.toInt 1) := fun h => absurd h.2 (by decide)
    have herror : successor.eval greatest = .error .type := Value.ofInt_of_not_fits hfits
    exact ⟨htype, ((eval_typed _ _ rfl (hbound _ rfl)).1 .number htype).2.mp herror⟩
  · have htype : HasType (typesIn greatest) unordered .boolean :=
      .binary (.name rfl) (.number _) (.order rfl .number)
    have hnan : Value.IsNaN (.float (0.0 / 0.0)) := ⟨_, rfl, by decide +kernel⟩
    have hrefused : unordered.HasRefused greatest :=
      ⟨_, .self _, .binary rfl rfl (.order rfl rfl rfl (.inr hnan))⟩
    exact ⟨htype, ((eval_typed _ _ rfl (hbound _ rfl)).1 .boolean htype).2.mpr hrefused⟩
  · have hnone : ¬ ∃ T, HasType (typesIn greatest) denial T := by
      rintro ⟨T, h⟩
      cases h with
      | unary hx hop =>
        cases hop
        cases hx with
        | name hx => cases hx
    exact ⟨hnone, (eval_typed _ _ rfl (hbound _ rfl)).2.1 hnone⟩

end ChartNet

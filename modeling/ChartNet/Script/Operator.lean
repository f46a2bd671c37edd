import ChartNet.Script.Expression

/-!
# Operators

Unary and binary operators, from the tightest to the loosest, up to the choice between two
expressions. Operators that bind equally tightly group to the left, but for powers and for `||`,
which group to the right.
-/

namespace ChartNet.Script

/-! ### One operand -/

/-- The operator that a lexeme is before its operand. -/
def unaryOp? : Token → Option UnaryOp
  | .sign "-" => some .minus
  | .sign "+" => some .plus
  | .sign "!" => some .not
  | .sign "~" => some .complement
  | .word "typeof" false => some .typeof
  | .word "void" false => some .void
  | .word "delete" false => some .delete
  | _ => none

/-- The sign counts up or down. -/
def isUpdate : Token → Bool
  | .sign s => s == "++" || s == "--"
  | _ => false

/-- An operand that may be counted up or down, before or after; after it only on the same line. -/
def update (g : Grammar) (p : Place) : Scan Term := do
  if isUpdate (← peek) then
    advance
    let t ← g.unary p
    if (t.form.simpleTarget? (← isStrict)).isNone then failure
    return .misc
  let t ← leftHand g p
  match ← lineEndAt 0 with
  | some false =>
    if isUpdate (← peek) then
      advance
      if (t.form.simpleTarget? (← isStrict)).isNone then failure
      return .misc
    return t
  | _ => return t

/-- What is deleted: no private member, and in strict mode no variable. Parentheses do not help. -/
def deletable (strict : Bool) : Form → Bool
  | .name _ => !strict
  | .member hidden => !hidden
  | .optional hidden => !hidden
  | .parens f => deletable strict f
  | _ => true

/-- A unary operator with its operand, or an operand. -/
def unary (g : Grammar) (p : Place) : Scan Term := do
  let t ← peek
  match unaryOp? t with
  | some op =>
    advance
    let t ← g.unary p
    if op = .delete && !deletable (← isStrict) t.form then failure
    return .plain (.unary op t.expr)
  | none =>
    if p.awaits && Token.isWord "await" t then
      advance
      let _ ← g.unary p
      modify ({ · with paused := true })
      return .misc
    else update g p

/-- A power. Its base has no unary operator, and it groups to the right. -/
def power (g : Grammar) (p : Place) : Scan Term := do
  let t ← peekSome 0
  if (unaryOp? t).isSome || (p.awaits && Token.isWord "await" t) then unary g p
  else
    let l ← update g p
    if ← eatSign "**" then
      let r ← g.power p
      return .plain (.binary (.arithmetic .pow) l.expr r.expr)
    return l

/-! ### Two operands -/

/-- A binary operator and how tightly it binds. -/
def binaryOp? (p : Place) : Token → Option (BinaryOp × Nat)
  | .sign "|" => some (.refused .bitOr, 1)
  | .sign "^" => some (.refused .bitXor, 2)
  | .sign "&" => some (.refused .bitAnd, 3)
  | .sign "==" => some (.compare .eq, 4)
  | .sign "!=" => some (.compare .ne, 4)
  | .sign "===" => some (.compare .strictEq, 4)
  | .sign "!==" => some (.compare .strictNe, 4)
  | .sign "<" => some (.compare .lt, 5)
  | .sign "<=" => some (.compare .le, 5)
  | .sign ">" => some (.compare .gt, 5)
  | .sign ">=" => some (.compare .ge, 5)
  | .word "instanceof" false => some (.refused .instanceOf, 5)
  | .word "in" false => if p.allowIn then some (.refused .isIn, 5) else none
  | .sign "<<" => some (.refused .shiftLeft, 6)
  | .sign ">>" => some (.refused .shiftRight, 6)
  | .sign ">>>" => some (.refused .shiftRightZero, 6)
  | .sign "+" => some (.arithmetic .add, 7)
  | .sign "-" => some (.arithmetic .sub, 7)
  | .sign "*" => some (.arithmetic .mul, 8)
  | .sign "/" => some (.arithmetic .div, 8)
  | .sign "%" => some (.arithmetic .rem, 8)
  | _ => none

/-- How tightly comparisons bind. -/
def comparisonLevel : Nat := 5

/-- How tightly the tightest operators bind. -/
def tightestLevel : Nat := 8

/-- Joins operands by operators that bind at least as tightly as `least`; the first operand is
joined by operators that bind at most as tightly as `most`. -/
def joined (g : Grammar) (p : Place) (least most : Nat) (first : Term) : Scan Term := do
  let step (l : Term) : Scan (Option Term) := do
    match binaryOp? p (← peek) with
    | some (op, level) =>
      if level < least || most < level then return none
      advance
      let r ← g.binary p (level + 1)
      return some (.plain (.binary op l.expr r.expr))
    | none => return none
  loop step first

/-- A private name before the word `in`, which asks whether an object has such a member. -/
def hiddenIn (g : Grammar) (p : Place) (w : String) : Scan Term := do
  advance
  word "in"
  useHidden w
  let _ ← g.binary p (comparisonLevel + 1)
  return .misc

/-- Operands joined by operators that bind at least as tightly as `least`. A question about a
private name stands where a comparison can, and no comparison is joined to it. -/
def binary (g : Grammar) (p : Place) (least : Nat) : Scan Term := do
  let t ← peekSome 0
  match t with
  | .privateName w =>
    unless p.allowIn && least ≤ comparisonLevel do failure
    let t ← hiddenIn g p w
    joined g p least (comparisonLevel - 1) t
  | _ =>
    expectOperator
    let t ← power g p
    joined g p least tightestLevel t

/-- What joined two operands before: nothing, the signs for truth values, or the sign for what is
missing. The latter two do not mix without parentheses. -/
inductive Joint where
  | none
  | logic
  | coalesce
deriving DecidableEq

/-- Operands joined by `&&`, `||` and `??`. What follows `||` is joined first. -/
def shortCircuitFrom (g : Grammar) (p : Place) (before : Joint) : Scan Term := do
  let first ← binary g p 1
  let step (acc : Term × Joint) : Scan (Option (Term × Joint)) := do
    let (l, joint) := acc
    match ← peek with
    | .sign "&&" =>
      if joint = .coalesce then failure
      advance
      let r ← g.binary p 1
      return some (.plain (.binary (.logic .and) l.expr r.expr), .logic)
    | .sign "||" =>
      if joint = .coalesce then failure
      advance
      let r ← g.shortCircuit p
      return some (.plain (.binary (.logic .or) l.expr r.expr), .logic)
    | .sign "??" =>
      if joint = .logic then failure
      advance
      let r ← g.binary p 1
      return some (.plain (.binary (.refused .coalesce) l.expr r.expr), .coalesce)
    | _ => return none
  let (t, _) ← loop step (first, before)
  return t

/-- A choice between two expressions, or just one. -/
def conditional (g : Grammar) (p : Place) : Scan Term := do
  let t ← shortCircuitFrom g p .none
  if ← eatSign "?" then
    let _ ← g.assignment p.withIn
    sign ":"
    let _ ← g.assignment p
    return .misc
  return t

end ChartNet.Script

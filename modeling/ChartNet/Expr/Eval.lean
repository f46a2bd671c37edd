import ChartNet.Decimal.Remainder
import ChartNet.Expr.Basic
import ChartNet.Expr.Value

/-!
# Evaluation

A tree is evaluated without side effects. Both operands of an operator are evaluated, the left one
first, before the operator is looked at; this holds for `&&` and `||` too.

* Whole numbers are added, subtracted, multiplied and divided with remainder exactly; a result that
  does not fit in 64 bits is refused. Division and powers always go through doubles.
* Comparison of numbers goes through doubles, also for two whole numbers.
-/

namespace ChartNet

/-- Why an expression has no value. -/
inductive ExprFault where
  /-- the text is no script -/
  | malformed
  /-- the script is not one statement -/
  | notSingle
  /-- the statement is not an expression -/
  | notExpression
  /-- a name without value -/
  | unbound (name : String)
  /-- a construct that is not evaluated -/
  | unsupported
  /-- operands that the operator does not take, or a result out of range -/
  | type
deriving DecidableEq, Repr

/-- An expression's text together with what is wrong with it. -/
structure ExprError where
  /-- the text of the expression -/
  code : String
  /-- what is wrong with it -/
  fault : ExprFault
deriving DecidableEq, Repr

/-- The wording of an expression error. -/
def ExprError.message (e : ExprError) : String :=
  match e.fault with
  | .malformed => "syntax error in expression `" ++ e.code ++ "`"
  | .notSingle =>
    "syntax error in expression `" ++ e.code ++ "`: code must be made by a single statement"
  | .notExpression =>
    "syntax error in expression `" ++ e.code ++ "`: statement is not an expression"
  | .unbound name => "undefined reference `" ++ name ++ "` in expression `" ++ e.code ++ "`"
  | .unsupported => "unsupported construct in expression `" ++ e.code ++ "`"
  | .type => "type error in expression `" ++ e.code ++ "`"

/-- A whole number as a value, if it fits in 64 bits. -/
def Value.ofInt (n : Int) : Except ExprFault Value :=
  if Int64.minValue.toInt ≤ n ∧ n ≤ Int64.maxValue.toInt then .ok (.integer (Int64.ofInt n))
  else .error .type

/-- An arithmetic operator on two whole numbers, where it stays within whole numbers. The remainder
by zero has no value, and that of the least number by minus one comes from a quotient that does not
fit. -/
def ArithmeticOp.onIntegers (op : ArithmeticOp) (l r : Int) : Option (Except ExprFault Value) :=
  match op with
  | .add => some (Value.ofInt (l + r))
  | .sub => some (Value.ofInt (l - r))
  | .mul => some (Value.ofInt (l * r))
  | .rem =>
    if r = 0 ∨ (l = Int64.minValue.toInt ∧ r = -1) then some (.error .type)
    else some (Value.ofInt (Int.tmod l r))
  | .div | .pow => none

/-- An arithmetic operator on two doubles. -/
def ArithmeticOp.onFloats : ArithmeticOp → Float → Float → Float
  | .add, l, r => l + r
  | .sub, l, r => l - r
  | .mul, l, r => l * r
  | .div, l, r => l / r
  | .rem, l, r => Decimal.remainder l r
  | .pow, l, r => Float.pow l r

/-- An arithmetic operator on two values that are not both whole numbers or both texts. -/
def ArithmeticOp.onNumbers (op : ArithmeticOp) (l r : Value) : Except ExprFault Value :=
  match l.asFloat?, r.asFloat? with
  | some x, some y => .ok (.float (op.onFloats x y))
  | _, _ => .error .type

/-- An arithmetic operator on two values. -/
def ArithmeticOp.apply (op : ArithmeticOp) (l r : Value) : Except ExprFault Value :=
  match l, r with
  | .string s, .string t => if op = .add then .ok (.string (s ++ t)) else .error .type
  | .integer m, .integer n =>
    match op.onIntegers m.toInt n.toInt with
    | some result => result
    | none => op.onNumbers l r
  | _, _ => op.onNumbers l r

/-- The order of two doubles; none if one of them is not a number. -/
def compareFloats? (x y : Float) : Option Ordering :=
  if x < y then some .lt else if x == y then some .eq else if y < x then some .gt else none

/-- The order of two texts, by code points. -/
def compareChars : List Char → List Char → Ordering
  | [], [] => .eq
  | [], _ :: _ => .lt
  | _ :: _, [] => .gt
  | c :: cs, d :: ds => (compare c.toNat d.toNat).then (compareChars cs ds)

/-- The order of two values, if they have one. -/
def Value.compare? : Value → Value → Option Ordering
  | .string s, .string t => some (compareChars s.toList t.toList)
  | .boolean a, .boolean b => some (compare a.toNat b.toNat)
  | l, r => match l.asFloat?, r.asFloat? with
    | some x, some y => compareFloats? x y
    | _, _ => none

/-- What a comparison says of two values in a given order. Without an order two values are
different, and nothing else can be said. -/
def CompareOp.holds? : CompareOp → Option Ordering → Option Bool
  | .eq, o => some (o == some .eq)
  | .strictEq, o => some (o == some .eq)
  | .ne, o => some (o != some .eq)
  | .strictNe, o => some (o != some .eq)
  | .lt, o => o.map (· == .lt)
  | .le, o => o.map (· != .gt)
  | .gt, o => o.map (· == .gt)
  | .ge, o => o.map (· != .lt)

/-- A comparison of two values. -/
def CompareOp.apply (op : CompareOp) (l r : Value) : Except ExprFault Value :=
  match op.holds? (l.compare? r) with
  | some b => .ok (.boolean b)
  | none => .error .type

/-- A logical operator on two values. -/
def LogicOp.apply : LogicOp → Value → Value → Except ExprFault Value
  | .and, .boolean a, .boolean b => .ok (.boolean (a && b))
  | .or, .boolean a, .boolean b => .ok (.boolean (a || b))
  | _, _, _ => .error .type

/-- A binary operator on two values. -/
def BinaryOp.apply : BinaryOp → Value → Value → Except ExprFault Value
  | .arithmetic op, l, r => op.apply l r
  | .compare op, l, r => op.apply l r
  | .logic op, l, r => op.apply l r
  | .refused _, _, _ => .error .unsupported

/-- A unary operator on a value. -/
def UnaryOp.apply : UnaryOp → Value → Except ExprFault Value
  | .minus, .integer n => Value.ofInt (-n.toInt)
  | .minus, .float x => .ok (.float (-x))
  | .plus, .integer n => .ok (.integer n)
  | .plus, .float x => .ok (.float x)
  | .not, .boolean b => .ok (.boolean (!b))
  | .minus, _ | .plus, _ | .not, _ => .error .type
  | .typeof, _ | .void, _ | .complement, _ | .delete, _ => .error .unsupported

/-- The value of a literal. -/
def Literal.value : Literal → Except ExprFault Value
  | .boolean b => .ok (.boolean b)
  | .integer n => .ok (.integer n)
  | .number x => .ok (.float x)
  | .text s => .ok (.string s)
  | .brokenText | .bigInteger | .null => .error .unsupported

/-- The value of a tree, with the values of its names given by `env`. -/
def Expr.eval (env : String → Option Value) : Expr → Except ExprFault Value
  | .literal l => l.value
  | .name x =>
    match env x with
    | some v => .ok v
    | none => .error (.unbound x)
  | .parens e => e.eval env
  | .unary op e => do op.apply (← e.eval env)
  | .binary op l r => do
    let a ← l.eval env
    let b ← r.eval env
    op.apply a b
  | .other _ => .error .unsupported

end ChartNet

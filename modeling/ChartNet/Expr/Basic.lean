/-!
# Expression trees

The part of ECMAScript that charts use: literals, names, parentheses, unary and binary operators.

Scripts hold more than that. Operators that take their operands and are then refused (`typeof`, the
bitwise ones, the comma) keep their operands in the tree; a construct that is refused as a whole is
one leaf, `Expr.other`, since nothing inside it is ever looked at.
-/

namespace ChartNet

/-- What a literal stands for. -/
inductive Literal where
  | boolean (b : Bool)
  | integer (n : Int64)
  | number (x : Float)
  | text (s : String)
  /-- a text with half of a surrogate pair, which is no text of characters -/
  | brokenText
  | bigInteger
  | null

/-- Operators before one operand. -/
inductive UnaryOp where
  | minus
  | plus
  | not
  | typeof
  | void
  | complement
  | delete
deriving DecidableEq, Repr

/-- Operators on numbers; `add` also joins texts. -/
inductive ArithmeticOp where
  | add
  | sub
  | mul
  | div
  | rem
  | pow
deriving DecidableEq, Repr

/-- Operators that compare. -/
inductive CompareOp where
  | eq
  | strictEq
  | ne
  | strictNe
  | lt
  | le
  | gt
  | ge
deriving DecidableEq, Repr

/-- Operators on truth values. -/
inductive LogicOp where
  | and
  | or
deriving DecidableEq, Repr

/-- Operators that are refused once both operands have values. -/
inductive RefusedOp where
  | bitAnd
  | bitOr
  | bitXor
  | shiftLeft
  | shiftRight
  | shiftRightZero
  | isIn
  | instanceOf
  | coalesce
  | comma
deriving DecidableEq, Repr

/-- Operators between two operands. -/
inductive BinaryOp where
  /-- computes with numbers, or joins texts -/
  | arithmetic (op : ArithmeticOp)
  /-- compares values -/
  | compare (op : CompareOp)
  /-- combines truth values -/
  | logic (op : LogicOp)
  /-- is parsed but has no value -/
  | refused (op : RefusedOp)
deriving DecidableEq, Repr

/-- Constructs that are refused as a whole. The grammar asks of an assignment's target whether it is
a property, so properties are told apart from the rest. -/
inductive Construct where
  /-- a member, `a.b` or `a[b]` -/
  | property
  /-- a function without name, an arrow, a class or a method -/
  | function
  /-- everything else: `this`, arrays, objects, calls, templates, assignments, … -/
  | misc
deriving DecidableEq, Repr

/-- Expression trees. -/
inductive Expr where
  /-- a value that is written out -/
  | literal (l : Literal)
  /-- a name -/
  | name (x : String)
  /-- an expression in parentheses -/
  | parens (e : Expr)
  /-- an operator before its operand -/
  | unary (op : UnaryOp) (e : Expr)
  /-- an operator between its operands -/
  | binary (op : BinaryOp) (l r : Expr)
  /-- a construct that is refused as a whole -/
  | other (c : Construct)

/-- The names of a tree, from left to right. -/
def Expr.names : Expr → List String
  | literal _ => []
  | name x => [x]
  | parens e => e.names
  | unary _ e => e.names
  | binary _ l r => l.names ++ r.names
  | other _ => []

end ChartNet

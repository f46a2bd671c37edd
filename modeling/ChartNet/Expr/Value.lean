import ChartNet.Decimal.Notation
import ChartNet.Text.Quoted

/-!
# Values of expressions

Booleans, whole numbers of 64 bits, doubles and texts. Whole numbers and doubles are both numbers,
and a whole number stands for the nearest double where a double is asked for.
-/

namespace ChartNet

/-- What an expression evaluates to. -/
inductive Value where
  /-- a truth value -/
  | boolean (b : Bool)
  /-- a whole number -/
  | integer (n : Int64)
  /-- a double -/
  | float (x : Float)
  /-- a text -/
  | string (s : String)

namespace Value

/-- A number as a double; nothing for the other values. -/
def asFloat? : Value → Option Float
  | integer n => some (Float.ofInt n.toInt)
  | float x => some x
  | _ => none

/-- The value as messages show it. -/
def text : Value → String
  | boolean b => if b then "true" else "false"
  | integer n => n.toInt.repr
  | float x => Decimal.positional x
  | string s => Text.quoted s

end Value

end ChartNet

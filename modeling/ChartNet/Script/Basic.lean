import ChartNet.Script.Item

/-!
# Scripts

The productions tied together, and the text of a script cut into its statements.
-/

namespace ChartNet.Script

/-- One more level of nesting on top of a grammar. -/
def Grammar.deeper (g : Grammar) : Grammar where
  assignment := Script.assignment g
  expression := Script.expression g
  unary := Script.unary g
  power := Script.power g
  binary := Script.binary g
  shortCircuit := fun p => Script.shortCircuitFrom g p .logic
  leftHand := Script.leftHand g
  callee := Script.member g
  binding := Script.binding g
  statement := Script.statement g
  item := Script.item g

/-- The grammar for scripts that nest at most so deep. -/
def Grammar.upTo : Nat → Grammar
  | 0 => .exhausted
  | n + 1 => (Grammar.upTo n).deeper

/-- A first line that names an interpreter is not a part of the script. -/
def dropShebang : List Char → List Char
  | '#' :: '!' :: cs => cs.dropWhile fun c => !Escape.isLineEnd c
  | cs => cs

/-- A script as a whole. No private name is left without declaration, and no member of the form
`a = 1` outside a pattern. -/
def script (g : Grammar) : Scan (List Item) := do
  let (is, _) ← items g .top
  unless (← peek).isDone do failure
  let c ← get
  unless c.hidden.isEmpty && c.loose == 0 do failure
  let vars := is.flatMap fun i => i.vars ++ i.functions.map (·.1)
  unless scopeValid (is.flatMap (·.lexical)) vars do failure
  return is

/-- The statements of a script, unless it is malformed. A construct takes at least one character for
each level that it nests, so the length of the text bounds the depth. -/
def parse? (code : String) : Option (List Item) :=
  let cs := dropShebang code.toList
  ((script (Grammar.upTo (2 * cs.length + 8))).run (.start cs)).map (·.1)

end ChartNet.Script

import ChartNet.Expr.Basic
import ChartNet.Script.Cursor

/-!
# Terms, items and the grammar

What the readers of expressions and statements return, what they are told about their surroundings,
and the names that may stand at a place.

An expression in parentheses, brackets or braces may turn out to be a list of parameters or a
pattern when the sign after it is seen. A `Term` therefore keeps, beside the tree, what it would be
then.

The productions of the grammar call each other through a record, `Grammar`, and are tied together
only at the end, with a bound on how deep they nest. Each production is thus an ordinary function.
-/

namespace ChartNet.Script

/-- What the place of a construct allows in it. -/
structure Place where
  /-- the word `in` is an operator here, and not a part of a loop's head -/
  allowIn : Bool
  /-- the word `yield` hands a value out -/
  yields : Bool
  /-- the word `await` waits -/
  awaits : Bool
  /-- inside a function, so that it may return -/
  returns : Bool
  /-- the form `new.target` has a meaning -/
  newTarget : Bool
  /-- the form `super.x` has a meaning -/
  superProperty : Bool
  /-- the form `super()` has a meaning -/
  superCall : Bool
  /-- the name `arguments` may be used -/
  argumentsAllowed : Bool
  /-- inside a loop or a switch -/
  breakable : Bool
  /-- inside a loop -/
  continuable : Bool
  /-- the labels around -/
  labels : List String
  /-- the labels of the loops around -/
  loopLabels : List String
  /-- the labels directly before this statement -/
  ownLabels : List String

/-- The place of a script's own statements. -/
def Place.top : Place :=
  ⟨true, false, false, false, false, false, false, true, false, false, [], [], []⟩

/-- The same place with `in` as an operator. -/
def Place.withIn (p : Place) : Place := { p with allowIn := true }

/-- The place of a part of a statement, to which the labels before the statement do not belong. -/
def Place.part (p : Place) : Place := { p with allowIn := true, ownLabels := [] }

/-! ### Terms -/

/-- What is assigned to: a variable, a member, or the names of a pattern. -/
inductive Target where
  /-- a variable -/
  | name (x : String)
  /-- a member of something -/
  | member
  /-- the names of a pattern -/
  | pattern (names : List String)

/-- The names that assigning to the target binds, if it is a parameter. -/
def Target.names : Target → List String
  | name x => [x]
  | member => []
  | pattern names => names

/-- Parameters: how many, the names in them, and whether each is just a name. -/
structure Parameters where
  /-- how many there are -/
  count : Nat
  /-- the names in them -/
  names : List String
  /-- each of them is just a name -/
  simple : Bool

/-- No parameters. -/
def Parameters.none : Parameters := ⟨0, [], true⟩

/-- Parameters after others. -/
def Parameters.append (a b : Parameters) : Parameters :=
  ⟨a.count + b.count, a.names ++ b.names, a.simple && b.simple⟩

/-- No two parameters have the same name. -/
def Parameters.unique (ps : Parameters) : Bool := ps.names.eraseDups.length == ps.names.length

/-- What an expression looks like to the construct around it. -/
inductive Form where
  /-- a name -/
  | name (x : String)
  /-- a member, `a.b` or `a[b]`; `hidden` if its name is private -/
  | member (hidden : Bool)
  /-- an array or an object; the names in it, if it can be a pattern -/
  | literal (names? : Option (List String))
  /-- an assignment; `plain` if by the equals sign -/
  | assignment (plain : Bool) (target : Target)
  /-- something in parentheses -/
  | parens (inner : Form)
  /-- an optional member; `hidden` if the last name is private -/
  | optional (hidden : Bool)
  /-- parameters before an arrow -/
  | arrow (ps : Parameters)
  /-- anything else -/
  | other

/-- An expression that was read. -/
structure Term where
  /-- the expression itself -/
  expr : Expr
  /-- what it looks like -/
  form : Form
  /-- what it is as a list of parameters -/
  params? : Option Parameters
  /-- members of the form `a = 1` in it that are in order if it turns out to be a pattern -/
  loose : Nat

/-- An expression that cannot turn out to be anything else. -/
def Term.plain (e : Expr) : Term := ⟨e, .other, none, 0⟩

/-- A construct that is refused as a whole. -/
def Term.misc : Term := .plain (.other .misc)

/-- A function, an arrow, a class or a method. -/
def Term.function : Term := .plain (.other .function)

/-- A member; its name may be private. -/
def Term.member (hidden : Bool) : Term := ⟨.other .property, .member hidden, none, 0⟩

/-- The names `eval` and `arguments`, which strict mode protects. -/
def isProtected (x : String) : Bool := x == "eval" || x == "arguments"

/-- The target that an expression is, if it is no pattern. -/
def Form.simpleTarget? (strict : Bool) : Form → Option Target
  | name x => if strict && isProtected x then none else some (.name x)
  | member _ => some .member
  | parens f => f.simpleTarget? strict
  | _ => none

/-- The target that an expression is. -/
def Form.target? (strict : Bool) : Form → Option Target
  | literal names? => names?.map .pattern
  | f => f.simpleTarget? strict

/-- The names that an expression binds as an element of a pattern in brackets. -/
def Form.element? (strict : Bool) : Form → Option (List String)
  | name x => if strict && isProtected x then none else some [x]
  | member _ => some []
  | literal names? => names?
  | assignment true target => some target.names
  | _ => none

/-- The names that an expression binds as the value of a member of a pattern in braces. Behind a key
that is not spelled out, a name has no initial value. -/
def Form.value? (strict computed : Bool) : Form → Option (List String)
  | assignment true (.name x) => if computed then none else some [x]
  | f => f.element? strict

/-- The names that an expression binds as the last element of a pattern, which takes all that is
left; `braces` if the pattern has braces. -/
def Form.remainder? (strict braces : Bool) : Form → Option (List String)
  | name x => if strict && isProtected x then none else some [x]
  | member _ => some []
  | literal names? => if braces then none else names?
  | _ => none

/-- The parameter that an expression is. -/
def Form.parameter? (strict : Bool) : Form → Option Parameters
  | name x => if strict && isProtected x then none else some ⟨1, [x], true⟩
  | literal names? => names?.map fun names => ⟨1, names, false⟩
  | assignment _ .member => none
  | assignment _ target => some ⟨1, target.names, false⟩
  | _ => none

/-- The term of a name. -/
def Term.name (strict : Bool) (x : String) : Term :=
  ⟨.name x, .name x, (Form.name x).parameter? strict, 0⟩

/-! ### Statements -/

/-- A statement or declaration, as far as its surroundings care. -/
structure Item where
  /-- the expression, if it is an expression statement -/
  expr? : Option Expr
  /-- names declared by `let`, `const` and classes -/
  lexical : List String
  /-- names of functions declared here; the flag marks ordinary functions -/
  functions : List (String × Bool)
  /-- names declared by `var`, also those in nested statements -/
  vars : List String
  /-- names declared by `var` in this very statement -/
  ownVars : List String

/-- A statement that declares nothing and is no expression. -/
def Item.plain : Item := ⟨none, [], [], [], []⟩

/-- A statement that only lets the `var` names of its parts through. -/
def Item.ofVars (vars : List String) : Item := ⟨none, [], [], vars, []⟩

/-! ### The grammar -/

/-- The productions that others refer to before they are defined. -/
structure Grammar where
  assignment : Place → Scan Term
  expression : Place → Scan Term
  unary : Place → Scan Term
  power : Place → Scan Term
  binary : Place → Nat → Scan Term
  shortCircuit : Place → Scan Term
  leftHand : Place → Scan Term
  callee : Place → Scan Term
  binding : Place → Scan (List String)
  statement : Place → Scan Item
  item : Place → Scan Item

/-- The grammar without any depth left. -/
def Grammar.exhausted : Grammar where
  assignment _ := failure
  expression _ := failure
  unary _ := failure
  power _ := failure
  binary _ _ := failure
  shortCircuit _ := failure
  leftHand _ := failure
  callee _ := failure
  binding _ := failure
  statement _ := failure
  item _ := failure

/-! ### Names -/

/-- Words that are never names. -/
def reservedWords : List String :=
  ["break", "case", "catch", "class", "const", "continue", "debugger", "default", "delete", "do",
    "else", "enum", "export", "extends", "false", "finally", "for", "function", "if", "import",
    "in", "instanceof", "new", "null", "return", "super", "switch", "this", "throw", "true", "try",
    "typeof", "var", "void", "while", "with"]

/-- Words that are no names in strict mode. -/
def strictWords : List String :=
  ["implements", "interface", "let", "package", "private", "protected", "public", "static", "yield"]

/-- Words that are names, but neither labels nor the one parameter of an asynchronous arrow. -/
def guardedWords : List String := ["async", "let", "of"]

/-- The word is no name at this place. -/
def isReserved (p : Place) (strict : Bool) (w : String) : Bool :=
  reservedWords.contains w || (strict && strictWords.contains w)
    || (p.yields && w == "yield") || (p.awaits && w == "await")

/-- A name that is used or declared. -/
def identifier (p : Place) : Scan String := do
  match ← take with
  | .word w _ =>
    if isReserved p (← isStrict) w then failure
    return w
  | _ => failure

/-- A name that is used. -/
def reference (p : Place) : Scan String := do
  let w ← identifier p
  if w == "arguments" && !p.argumentsAllowed then failure
  return w

/-- A name that is bound. -/
def bindingName (p : Place) : Scan String := do
  let w ← identifier p
  if isProtected w && (← isStrict) then failure
  return w

/-- No name is declared twice by `let` and its like, nor by these and by `var`. -/
def scopeValid (lexical vars : List String) : Bool :=
  lexical.eraseDups.length == lexical.length && !lexical.any vars.contains

end ChartNet.Script

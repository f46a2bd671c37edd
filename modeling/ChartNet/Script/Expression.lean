import ChartNet.Script.Class

/-!
# Operands, members and calls

The tightest productions of expressions. Parentheses, brackets and braces are read in one way,
whether they hold an expression, a pattern or parameters; the term says what they could be.
-/

namespace ChartNet.Script

/-! ### Literals -/

/-- The tree of a numeric literal. -/
def numeral : Numeral → Expr
  | .integer n => .literal (.integer n)
  | .number x => .literal (.number x)
  | .big => .literal .bigInteger

/-- The tree of a string literal. -/
def text (units : List Nat) : Expr :=
  match Escape.decodeUnits? units with
  | some cs => .literal (.text (String.ofList cs))
  | none => .literal .brokenText

/-- Substitutions and pieces of a template after its first piece. Only a tagged template may have
escapes without meaning. -/
def templateRest (g : Grammar) (p : Place) (tagged : Bool) (valid last : Bool) : Scan Unit := do
  unless valid || tagged do failure
  let step (last : Bool) : Scan (Option Bool) := do
    if last then return none
    let _ ← g.expression p.withIn
    sign "\x7d"
    let (valid, last) ← templatePiece
    unless valid || tagged do failure
    return some last
  let _ ← loop step last

/-! ### Arrays -/

/-- The part of an array that was read. -/
structure Elements where
  /-- the names that it binds as a pattern, if it can be one -/
  names? : Option (List String)
  /-- members of the form `a = 1` in it -/
  loose : Nat
  /-- a comma or the end must come next -/
  full : Bool
  /-- some element stands for all elements of another array -/
  spread : Bool
  closed : Bool

/-- One more element of an array, or a place that is left out. In a pattern nothing comes after an
element that takes all that is left. -/
def Elements.push (es : Elements) (names? : Option (List String)) (loose : Nat)
    (full spread : Bool) : Elements where
  names? := if es.spread then none else match es.names?, names? with
    | some a, some b => some (a ++ b)
    | _, _ => none
  loose := es.loose + loose
  full := full
  spread := es.spread || spread
  closed := false

/-- One step through an array. -/
def elementStep (g : Grammar) (p : Place) (es : Elements) : Scan (Option Elements) := do
  if es.closed then return none
  match ← peek with
  | .sign "]" =>
    advance
    return some { es with closed := true }
  | .sign "," =>
    advance
    if es.full then
      if es.spread then
        if ← atSign "]" then return some { es with full := false, names? := none }
      return some { es with full := false }
    else return some (es.push (some []) 0 false false)
  | .sign "..." =>
    if es.full then failure
    advance
    let t ← g.assignment p.withIn
    return some (es.push (t.form.remainder? (← isStrict) false) t.loose true true)
  | _ =>
    if es.full then failure
    let t ← g.assignment p.withIn
    return some (es.push (t.form.element? (← isStrict)) t.loose true false)

/-- Elements of an array after the opening bracket. -/
def array (g : Grammar) (p : Place) : Scan Term := do
  let es ← loop (elementStep g p) ⟨some [], 0, false, false, false⟩
  let form := Form.literal es.names?
  return ⟨.other .misc, form, form.parameter? (← isStrict), es.loose⟩

/-! ### Parentheses -/

/-- What stands between parentheses. -/
structure Enclosed where
  /-- an expression, unless there is none -/
  term? : Option Term
  /-- what it is as a list of parameters -/
  params? : Option Parameters
  /-- nothing but an expression -/
  whole : Bool

/-- A parameter that takes all that is left, up to the closing parenthesis. -/
def enclosedRest (g : Grammar) (p : Place) (before? : Option Parameters) (term? : Option Term) :
    Scan Enclosed := do
  sign "..."
  let ps ← restParameter g p
  sign ")"
  return ⟨term?, before?.map (·.append ps), false⟩

/-- Everything up to the closing parenthesis. -/
def enclosed (g : Grammar) (p : Place) : Scan Enclosed := do
  if ← eatSign ")" then return ⟨none, some .none, false⟩
  if ← atSign "..." then return ← enclosedRest g p (some .none) none
  let t ← g.expression p.withIn
  if ← eatSign ")" then return ⟨some t, t.params?, true⟩
  sign ","
  if ← eatSign ")" then return ⟨some t, t.params?, false⟩
  enclosedRest g p t.params? (some t)

/-- An arrow comes next, on the same line. -/
def atArrow : Scan Bool := do
  if ← atSign "=>" then return (← lineEndAt 0) == some false
  return false

/-- An expression in parentheses or the parameters of an arrow, after the opening parenthesis.
Nothing pauses in an arrow's parameters. -/
def parenthesised (g : Grammar) (p : Place) : Scan Term := do
  let (e, paused) ← pausing (enclosed g p)
  if ← atArrow then
    if paused then failure
    match e.params? with
    | some ps =>
      modify fun c => { c with loose := c.loose - (e.term?.map (·.loose)).getD 0 }
      return ⟨.other .function, .arrow ps, none, 0⟩
    | none => failure
  else
    if paused then modify ({ · with paused := true })
    match e.term?, e.whole with
    | some t, true => return ⟨.parens t.expr, .parens t.form, none, 0⟩
    | _, _ => failure

/-! ### Operands -/

/-- An operand that starts with the word `async`: a function if that word follows on the same line,
else a name. -/
def asyncOperand (g : Grammar) (p : Place) : Scan Term := do
  let apart := (← lineEndsAfter).getD true
  if Token.isWord "function" (← peekAt 1) && !apart then
    advance
    advance
    let _ ← function g p true false
    return .function
  return .name (← isStrict) (← reference p)

/-- An operand that starts with a word. Words with a meaning of their own are written out, but for
the one that stops a debugger. -/
def wordOperand (g : Grammar) (p : Place) (w : String) (escaped : Bool) : Scan Term := do
  match w with
  | "debugger" =>
    advance
    return .misc
  | "this" | "null" | "true" | "false" =>
    if escaped then failure
    advance
    match w with
    | "null" => return .plain (.literal .null)
    | "true" => return .plain (.literal (.boolean true))
    | "false" => return .plain (.literal (.boolean false))
    | _ => return .misc
  | "function" =>
    if escaped then failure
    advance
    let _ ← function g p false false
    return .function
  | "class" =>
    if escaped then failure
    advance
    let _ ← klass g p
    return .function
  | "async" => if escaped then failure else asyncOperand g p
  | _ => return .name (← isStrict) (← reference p)

/-- Literals, names, brackets of all kinds, functions and classes. -/
def operand (g : Grammar) (p : Place) : Scan Term := do
  match ← peek with
  | .word w escaped => wordOperand g p w escaped
  | .numeral n =>
    advance
    return .plain (numeral n)
  | .string us _ _ =>
    advance
    return .plain (text us)
  | .template valid last =>
    advance
    templateRest g p false valid last
    return .misc
  | .regexp =>
    advance
    return .misc
  | .sign "/" =>
    advance
    regexpRest
    return .misc
  | .sign "(" =>
    advance
    expectOperand
    parenthesised g p
  | .sign "[" =>
    advance
    expectOperand
    array g p
  | .sign "\x7b" =>
    advance
    expectOperand
    object g p
  | _ => failure

/-! ### Members -/

/-- Notes the use of a private name. -/
def useHidden (w : String) : Scan Unit := modify fun c => { c with hidden := w :: c.hidden }

/-- A member's name after a point; whether it is private. -/
def memberName : Scan Bool := do
  match ← take with
  | .word .. => return false
  | .privateName w =>
    useHidden w
    return true
  | _ => failure

/-- An expression in brackets, after the opening one. -/
def index (g : Grammar) (p : Place) : Scan Unit := do
  let _ ← g.expression p.withIn
  sign "]"

/-- One more argument of a call, and whether the arguments end with it. -/
def argumentStep (g : Grammar) (p : Place) (acc : Bool × Bool) : Scan (Option (Bool × Bool)) := do
  let (some?, closed) := acc
  if closed then return none
  expectOperand
  if ← eatSign ")" then return some (some?, true)
  if some? then
    sign ","
    if ← eatSign ")" then return some (true, true)
  if ← eatSign "..." then
    let _ ← g.assignment p.withIn
  else
    expectOperand
    let _ ← g.assignment p.withIn
  return some (true, false)

/-- Arguments of a call. -/
def arguments (g : Grammar) (p : Place) : Scan Unit := do
  sign "("
  let _ ← loop (argumentStep g p) (false, false)
  expectOperator

/-- One more member; `calls` says that calls may occur too. -/
def memberStep (g : Grammar) (p : Place) (calls : Bool) (_ : Term) : Scan (Option Term) := do
  match ← peek with
  | .sign "." =>
    advance
    return some (.member (← memberName))
  | .sign "[" =>
    advance
    index g p
    return some (.member false)
  | .template valid last =>
    advance
    templateRest g p true valid last
    return some .misc
  | .sign "(" =>
    unless calls do return none
    arguments g p
    return some .misc
  | _ => return none

/-- A member of the parent, after the word `super`. -/
def parentMember (g : Grammar) (p : Place) : Scan Term := do
  unless p.superProperty do failure
  match ← take with
  | .sign "." => if ← memberName then failure
  | .sign "[" => index g p
  | _ => failure
  return .member false

/-- What follows the word `new`: the word `target`, or what is created. The check of where
`new.target` has a meaning does not reach into what is created. -/
def creation (g : Grammar) (p : Place) : Scan Term := do
  if ← eatSign "." then
    unless p.newTarget do failure
    word "target"
    return .misc
  let _ ← g.callee { p with newTarget := true }
  if ← atSign "(" then arguments g p
  return .misc

/-- An operand with members. -/
def member (g : Grammar) (p : Place) : Scan Term := do
  expectOperand
  let t ← match ← peek with
    | .word "new" false => do
      advance
      creation g p
    | .word "super" false => do
      advance
      parentMember g p
    | _ => operand g p
  expectOperator
  loop (memberStep g p false) t

/-! ### Calls -/

/-- The next lexeme is this word, and an opening parenthesis comes after it. -/
def atCall (w : String) : Scan Bool := do
  if ← atWord w then return Token.isSign "(" (← peekAt 1)
  return false

/-- One more member or call of an optional chain; the flag says that the last name is private. -/
def optionalStep (g : Grammar) (p : Place) (_ : Bool) : Scan (Option Bool) := do
  let marked ← eatSign "?."
  match ← peek with
  | .sign "(" =>
    arguments g p
    return some false
  | .sign "[" =>
    advance
    index g p
    return some false
  | .template .. => failure
  | .sign "." =>
    if marked then failure
    advance
    return some (← memberName)
  | _ =>
    unless marked do return none
    return some (← memberName)

/-- A left-hand side: an operand with members and calls, and optional ones after these. -/
def leftHand (g : Grammar) (p : Place) : Scan Term := do
  expectOperator
  let t ←
    if ← atCall "super" then
      unless p.superCall do failure
      advance
      arguments g p
      loop (memberStep g p true) .misc
    else if ← atCall "import" then
      advance
      advance
      let _ ← g.assignment p.withIn
      sign ")"
      loop (memberStep g p true) .misc
    else
      let t ← member g p
      if ← atSign "(" then loop (memberStep g p true) t else pure t
  if ← atSign "?." then
    let hidden ← loop (optionalStep g p) false
    return ⟨.other .misc, .optional hidden, none, 0⟩
  return t

end ChartNet.Script

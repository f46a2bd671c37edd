import ChartNet.Script.Operator

/-!
# Assignments and arrows

The loosest productions of expressions. An expression before an equals sign is a target, possibly a
pattern; parameters before an arrow were read as an expression and are judged when the arrow comes.
-/

namespace ChartNet.Script

/-- The signs that assign the result of an operator. -/
def operatorAssignments : List String :=
  ["+=", "-=", "*=", "/=", "%=", "**=", "<<=", ">>=", ">>>=", "&=", "|=", "^=", "&&=", "||=",
    "??="]

/-- The term of an assignment to a target. -/
def assigned (strict plain : Bool) (target : Target) : Term :=
  let form := Form.assignment plain target
  ⟨.other .misc, form, form.parameter? strict, 0⟩

/-- An assignment after its target was read, or the expression itself if nothing is assigned. -/
def assignmentRest (g : Grammar) (p : Place) (t : Term) : Scan Term := do
  match ← peek with
  | .sign s =>
    if s == "=" then
      advance
      expectOperand
      match t.form.target? (← isStrict) with
      | some target =>
        modify fun c => { c with loose := c.loose - t.loose }
        let _ ← g.assignment p
        return assigned (← isStrict) true target
      | none => failure
    else if operatorAssignments.contains s then
      advance
      match t.form.simpleTarget? (← isStrict) with
      | some target =>
        let _ ← g.assignment p
        return assigned (← isStrict) false target
      | none => failure
    else return t
  | _ => return t

/-- Words that join what stands before them to something. -/
def joiningWords : List String := ["in", "of", "instanceof"]

/-- Starts an expression that `yield` hands out. -/
def beginsOperand : Token → Bool
  | .word w _ => !joiningWords.contains w
  | .sign s => ["(", "[", "\x7b", "+", "-", "!", "~", "++", "--", "/"].contains s
  | .numeral _ | .string .. | .template .. | .regexp => true
  | _ => false

/-- What a generator hands out, after the word `yield`: nothing if the line ends there. -/
def yieldRest (g : Grammar) (p : Place) : Scan Term := do
  modify ({ · with paused := true })
  match ← lineEndAt 0 with
  | some false =>
    if ← eatSign "*" then
      let _ ← g.assignment p
    else if beginsOperand (← peek) then
      let _ ← g.assignment p
    return .misc
  | _ => return .misc

/-- The parameters of an arrow that starts with the word `async`. -/
def asyncParameters (g : Grammar) (p : Place) : Scan Parameters := do
  let inner := p.insideArrow true
  if ← atSign "(" then parameters g inner
  else return ⟨1, [← bindingName { inner with yields := p.yields }], true⟩

/-- An arrow that starts with the word `async`. Nothing pauses in its parameters. -/
def asyncArrow (g : Grammar) (p : Place) : Scan Term := do
  advance
  sameLine
  let (ps, paused) ← pausing (asyncParameters g p)
  if paused then failure
  arrowRest g p true ps

/-- The word `async` begins an arrow: on its line a name or an opening parenthesis follows. -/
def atAsyncArrow : Scan Bool := do
  match ← lineEndsAfter with
  | none => failure
  | some true => return false
  | some false =>
    match ← peekSome 1 with
    | .word w _ => return !reservedWords.contains w && !guardedWords.contains w
    | .sign s => return s == "("
    | _ => return false

/-- An arrow with one name before it. -/
def nameArrow (g : Grammar) (p : Place) : Scan Term := do
  let x ← bindingName p
  arrowRest g p false ⟨1, [x], true⟩

/-- An expression that starts with neither an arrow's name nor a word of its own. -/
def plainAssignment (g : Grammar) (p : Place) : Scan Term := do
  expectOperator
  let t ← conditional g p
  match t.form with
  | .arrow ps => arrowRest g p false ps
  | _ => assignmentRest g p t

/-- An assignment, an arrow, or an expression without either. After a name the next lexeme is looked
at for an arrow; if it is malformed, it is passed over. -/
def assignment (g : Grammar) (p : Place) : Scan Term := do
  expectOperand
  match ← peekSome 0 with
  | .word w escaped =>
    if w == "yield" && p.yields then
      if escaped then failure
      advance
      yieldRest g p
    else if w == "async" && !escaped then
      if ← atAsyncArrow then asyncArrow g p else plainAssignment g p
    else if reservedWords.contains w || w == "let" || w == "async" then plainAssignment g p
    else
      expectOperator
      match ← peekOver with
      | some t => if Token.isSign "=>" t then nameArrow g p else plainAssignment g p
      | none => plainAssignment g p
  | _ => plainAssignment g p

/-- Assignments separated by commas. A comma before a closing parenthesis or before three points
belongs to the parentheses around. -/
def expression (g : Grammar) (p : Place) : Scan Term := do
  let first ← assignment g p
  let step (l : Term) : Scan (Option Term) := do
    unless ← atSign "," do return none
    match ← peekSome 1 with
    | .sign ")" | .sign "..." => return none
    | _ =>
      advance
      let r ← g.assignment p
      let params? := match l.params?, r.params? with
        | some a, some b => some (a.append b)
        | _, _ => none
      return some
        ⟨.binary (.refused .comma) l.expr r.expr, .other, params?, l.loose + r.loose⟩
  loop step first

end ChartNet.Script

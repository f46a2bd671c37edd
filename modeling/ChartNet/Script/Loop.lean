import ChartNet.Script.Statement

/-!
# Loops

Loops that test first or last, that count, and that run over the keys or elements of a value. What
the head of a `for` loop starts with is read before it is known which of the latter it is.
-/

namespace ChartNet.Script

/-- The place inside a loop. The labels before the loop are labels of the loop. -/
def Place.inLoop (p : Place) : Place :=
  { p.part with
    breakable := true
    continuable := true
    loopLabels := p.ownLabels ++ p.loopLabels }

/-- A loop that tests first, after its word. -/
def whileRest (g : Grammar) (p : Place) : Scan Item := do
  condition g p
  let s ← g.statement p.inLoop
  return .ofVars s.vars

/-- A loop that tests last, after its word. The semicolon at its end may always be left out. -/
def doRest (g : Grammar) (p : Place) : Scan Item := do
  let s ← g.statement p.inLoop
  word "while"
  condition g p
  let _ ← eatSign ";"
  return .ofVars s.vars

/-- What the head of a loop starts with. -/
inductive Head where
  | empty
  | expression (t : Term)
  /-- variables declared by `var`, each with the mark of an initial value -/
  | declared (ds : List (List String × Bool))
  /-- variables that the loop keeps to itself -/
  | lexical (constant : Bool) (ds : List (List String × Bool))

/-- The names that the loop keeps to itself. -/
def Head.kept : Head → List String
  | lexical _ ds => ds.flatMap (·.1)
  | _ => []

/-- The names that the head declares by `var`. -/
def Head.vars : Head → List String
  | declared ds => ds.flatMap (·.1)
  | _ => []

/-- One variable without initial value. -/
def isSingle : List (List String × Bool) → Bool
  | [(_, initialised)] => !initialised
  | _ => false

/-- The expression can be what a loop assigns to, inside any parentheses. -/
def isLoopTarget (strict : Bool) : Form → Bool
  | .parens f => isLoopTarget strict f
  | f => (f.target? strict).isSome

/-- The loop can run over the keys of a value, or over its elements. A variable that is called `let`
does not run over elements. -/
def Head.runs (strict elements : Bool) : Head → Bool
  | empty => false
  | expression t =>
    isLoopTarget strict t.form && !(elements && (match t.form with
      | .name x => x == "let"
      | _ => false))
  | declared ds => isSingle ds
  | lexical _ ds => isSingle ds

/-- The loop can count; a constant needs an initial value. -/
def Head.counts : Head → Bool
  | lexical true ds => ds.all (·.2)
  | _ => true

/-- The start of a loop's head, after the opening parenthesis; `waits` says that the loop waits for
each element. -/
def headStart (g : Grammar) (p : Place) (waits : Bool) : Scan Head := do
  let p := { p with allowIn := false }
  let plain : Scan Head := return .expression (← g.expression p)
  match ← peekSome 0 with
  | .sign ";" => return .empty
  | .word "var" false =>
    advance
    return .declared (← variableList g p)
  | .word "const" false =>
    advance
    return .lexical true (← lexicalList g p true true)
  | .word "let" false =>
    if followsLet (← peekAt 1) then
      advance
      return .lexical false (← lexicalList g p false true)
    else plain
  | .word "async" false =>
    if waits then plain
    else if Token.isWord "of" (← peekSome 1) then failure
    else plain
  | _ => plain

/-- The test and the step of a counting loop, after its start. -/
def countRest (g : Grammar) (p : Place) : Scan Unit := do
  sign ";"
  unless ← eatSign ";" do
    let _ ← g.expression p.withIn
    sign ";"
  unless ← eatSign ")" do
    let _ ← g.expression p.withIn
    sign ")"

/-- What a loop runs over, or how it counts, up to the end of its head. -/
def headRest (g : Grammar) (p : Place) (waits : Bool) (h : Head) : Scan Unit := do
  let t ← peek
  let elements := Token.isWord "of" t
  if elements || Token.isWord "in" t then
    if waits && !elements then failure
    unless h.runs (← isStrict) elements do failure
    match h with
    | .expression t => modify fun c => { c with loose := c.loose - t.loose }
    | _ => pure ()
    advance
    let _ ← if elements then g.assignment p.withIn else g.expression p.withIn
    sign ")"
  else
    if waits || !h.counts then failure
    countRest g p

/-- A loop with a head, after its word. The body does not declare the loop's own names by `var`. -/
def forRest (g : Grammar) (p : Place) : Scan Item := do
  let waits ← if p.awaits then eatWord "await" else pure false
  sign "("
  let h ← headStart g p waits
  headRest g p waits h
  let s ← g.statement p.inLoop
  if h.kept.any s.vars.contains then failure
  return .ofVars (h.vars ++ s.vars)

end ChartNet.Script

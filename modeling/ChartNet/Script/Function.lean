import ChartNet.Script.Binding

/-!
# Functions

Parameters, bodies, and functions with the word `function`. A body that starts with the directive
`"use strict"` is strict; for a function this holds for its name and parameters too.
-/

namespace ChartNet.Script

/-- How a function runs. -/
structure Kind where
  async : Bool
  generator : Bool

/-- The place inside a function; `method` lets it reach its parent's members, `derived` lets it call
its parent's constructor. -/
def Place.inside (k : Kind) (method derived : Bool) : Place where
  allowIn := true
  yields := k.generator
  awaits := k.async
  returns := true
  newTarget := true
  superProperty := method
  superCall := derived
  argumentsAllowed := true
  breakable := false
  continuable := false
  labels := []
  loopLabels := []
  ownLabels := []

/-- The place inside an arrow, which shares its surroundings' `new.target`, parent and arguments. -/
def Place.insideArrow (p : Place) (async : Bool) : Place :=
  { Place.inside ⟨async, false⟩ p.superProperty p.superCall with
    newTarget := p.newTarget
    argumentsAllowed := p.argumentsAllowed }

/-- Reads something that may pause only for itself; whether it did. -/
def pausing {α : Type} (q : Scan α) : Scan (α × Bool) := do
  let before := (← get).paused
  modify ({ · with paused := false })
  let a ← q
  let paused := (← get).paused
  modify ({ · with paused := before })
  return (a, paused)

/-! ### Parameters -/

/-- One parameter. -/
def parameter (g : Grammar) (p : Place) : Scan Parameters := do
  let pattern ← atPattern
  let names ← g.binding p
  let initialised ← initial? g p.withIn
  return ⟨1, names, !pattern && !initialised⟩

/-- The parameter that takes all that is left, after its mark. -/
def restParameter (g : Grammar) (p : Place) : Scan Parameters := do
  return ⟨1, ← g.binding p, false⟩

/-- Parameters up to the closing parenthesis, after the opening one. Only names may be repeated. -/
def parameterList (g : Grammar) (p : Place) : Scan Parameters := do
  expectOperand
  let step (acc : Parameters × Bool) : Scan (Option (Parameters × Bool)) := do
    let (ps, closed) := acc
    if closed then return none
    if ← eatSign ")" then return some (ps, true)
    if ← eatSign "..." then
      let more ← restParameter g p
      sign ")"
      return some (ps.append more, true)
    let more ← parameter g p
    unless ← atSign ")" do sign ","
    return some (ps.append more, false)
  let (ps, _) ← loop step (.none, false)
  if !ps.simple && !ps.unique then failure
  return ps

/-- Parameters in parentheses. -/
def parameters (g : Grammar) (p : Place) : Scan Parameters := do
  sign "("
  parameterList g p

/-! ### Bodies -/

/-- What a body shows to its function. -/
structure Body where
  /-- names that it declares by `let` and its like -/
  lexical : List String
  /-- it asks for strict mode itself -/
  directed : Bool

/-- A string that is a statement of its own, so that it may be a directive: its source text and
whether it has an octal escape. -/
def directive? (t : Token) (i : Item) : Option (List Char × Bool) :=
  match t, i.expr? with
  | .string _ source legacy, some (.literal _) => some (source, legacy)
  | _, _ => none

/-- The items of a body, and whether a directive asks for strict mode. Directives are the string
statements that a body starts with; strict mode begins with the directive that asks for it, and the
directives before it have no octal escapes. -/
def items (g : Grammar) (p : Place) : Scan (List Item × Bool) := do
  let step (acc : List Item × Bool × Bool × Bool) :
      Scan (Option (List Item × Bool × Bool × Bool)) := do
    let (done, prologue, octal, directed) := acc
    let t ← peek
    if t.isDone || Token.isSign "\x7d" t then return none
    let i ← g.item p
    match if prologue then directive? t i else none with
    | some (source, legacy) =>
      if source == "use strict".toList then
        if octal then failure
        modify ({ · with strict := true })
        return some (done ++ [i], true, octal, true)
      return some (done ++ [i], true, octal || legacy, directed)
    | none => return some (done ++ [i], false, octal, directed)
  let (done, _, _, directed) ← withStrict (← isStrict) (loop step ([], true, false, false))
  return (done, directed)

/-- A body in braces. Variables declared by `let` and its like are not declared twice, nor by a
`var` beside them. -/
def body (g : Grammar) (p : Place) : Scan Body := do
  sign "\x7b"
  let (is, directed) ← items g p
  sign "\x7d"
  let lexical := is.flatMap (·.lexical)
  unless scopeValid lexical (is.flatMap (·.ownVars)) do failure
  return ⟨lexical, directed⟩

/-- The parameters fit the body: a body that asks for strict mode has simple parameters, and the
body does not declare a parameter again. -/
def fits (ps : Parameters) (b : Body) : Bool :=
  (!b.directed || ps.simple) && !ps.names.any b.lexical.contains

/-- The name can be a function's name or parameter under strict mode. -/
def strictName (x : String) : Bool := !isProtected x && !strictWords.contains x

/-! ### Functions -/

/-- Parameters of a function or method of this kind. A generator must not pause in them. -/
def kindParameters (g : Grammar) (k : Kind) (inner : Place) : Scan Parameters := do
  let (ps, paused) ← pausing (parameters g inner)
  if k.generator && paused then failure
  return ps

/-- A function after the word `function`; its name, if it has one. A declaration's name belongs to
the surroundings, an expression's to the function itself. -/
def function (g : Grammar) (p : Place) (async declaration : Bool) :
    Scan (Option String × Kind) := do
  let k : Kind := ⟨async, ← eatSign "*"⟩
  let inner := Place.inside k false false
  let name? ← if ← atSign "(" then pure none else
    pure (some (← bindingName (if declaration then p else inner)))
  let ps ← kindParameters g k inner
  let (b, _) ← pausing (body g inner)
  unless fits ps b do failure
  let strict := b.directed || (← isStrict)
  if strict && !ps.unique then failure
  if b.directed && !ps.names.all strictName then failure
  if b.directed && name?.any isProtected then failure
  return (name?, k)

/-- A method's parameters and body, after its name. -/
def methodRest (g : Grammar) (k : Kind) (derived : Bool) : Scan Unit := do
  let inner := Place.inside k true derived
  let ps ← kindParameters g k inner
  unless ps.unique do failure
  let (b, _) ← pausing (body g inner)
  unless fits ps b do failure

/-! ### Arrows -/

/-- A body or an expression after an arrow. -/
def arrowBody (g : Grammar) (p : Place) (async : Bool) : Scan Body := do
  let inner := p.insideArrow async
  if ← atSign "\x7b" then body g inner
  else
    let _ ← g.assignment { inner with allowIn := p.allowIn }
    return ⟨[], false⟩

/-- What follows an arrow's parameters: the arrow on the same line, and a body or an expression. -/
def arrowRest (g : Grammar) (p : Place) (async : Bool) (ps : Parameters) : Scan Term := do
  sameLine
  sign "=>"
  let (b, _) ← pausing (arrowBody g p async)
  unless ps.unique && fits ps b do failure
  return .function

end ChartNet.Script

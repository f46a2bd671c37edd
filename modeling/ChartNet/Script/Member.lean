import ChartNet.Script.Function

/-!
# Objects

The members of an object between braces. If an assignment or an arrow follows, the object is a
pattern instead, so each member also says which names it would bind then.
-/

namespace ChartNet.Script

/-- A method that stands for a member's value. -/
inductive Accessor where
  /-- gives the value -/
  | getter
  /-- takes a new value -/
  | setter
deriving DecidableEq

/-- The accessor that a word before a member's name asks for. -/
def Accessor.ofWord? (w : String) : Option Accessor :=
  if w == "get" then some .getter else if w == "set" then some .setter else none

/-- A getter after its name. It has no parameters. -/
def getterRest (g : Grammar) : Scan Unit := do
  sign "("
  sign ")"
  let (_, _) ← pausing (body g (.inside ⟨false, false⟩ true false))

/-- The body of a setter, after its parameter. -/
def setterBody (g : Grammar) (ps : Parameters) : Scan Unit := do
  let (b, _) ← pausing (body g (.inside ⟨false, false⟩ true false))
  unless ps.unique && fits ps b do failure
  if b.directed && ps.names.any isProtected then failure

/-- A member of an object. -/
structure Property where
  /-- the names that it binds in a pattern, if it can stand in one -/
  names? : Option (List String)
  /-- it gives the object its prototype -/
  prototype : Bool
  /-- it takes all that is left -/
  remainder : Bool
  /-- members of the form `a = 1` in it -/
  loose : Nat

/-- A method, which has no place in a pattern. -/
def Property.method : Property := ⟨none, false, false, 0⟩

/-- The names in a pattern that consists of the name alone. -/
def ownName? (x : String) : Scan (Option (List String)) := do
  return (Form.name x).element? (← isStrict)

/-- A member whose name stands for the variable of that name. -/
def shorthand (p : Place) : Scan Property := do
  let x ← reference p
  return ⟨← ownName? x, false, false, 0⟩

/-- A name with an initial value, which only a pattern can have. -/
def initialised (g : Grammar) (p : Place) : Scan Property := do
  let x ← reference p
  sign "="
  let _ ← g.assignment p.withIn
  modify fun c => { c with loose := c.loose + 1 }
  return ⟨← ownName? x, false, false, 1⟩

/-- A member that stands for all members of another object, after its mark. -/
def spreadProperty (g : Grammar) (p : Place) : Scan Property := do
  let t ← g.assignment p.withIn
  return ⟨t.form.remainder? (← isStrict) true, false, true, 0⟩

/-- A member's value after the colon. -/
def valueProperty (g : Grammar) (p : Place) (key : Key) : Scan Property := do
  let t ← g.assignment p.withIn
  return ⟨t.form.value? (← isStrict) key.isComputed, key.is "__proto__", false, t.loose⟩

/-- An accessor or a method that is not marked as one, or a member with a value. -/
def keyedProperty (g : Grammar) (p : Place) : Scan Property := do
  let key ← publicKey g p
  if ← eatSign ":" then valueProperty g p key
  else
    let (w, escaped) := match key with
      | .word w escaped => (w, escaped)
      | .text w => (w, false)
      | _ => ("", false)
    let accessor? := if ← atSign "(" then none else Accessor.ofWord? w
    match accessor? with
    | some .getter =>
      if escaped then failure
      let _ ← publicKey g p
      getterRest g
    | some .setter =>
      if escaped then failure
      let _ ← publicKey g p
      sign "("
      let ps ← parameter g (.inside ⟨false, false⟩ true false)
      sign ")"
      setterBody g ps
    | none => methodRest g ⟨false, false⟩ false
    return .method

/-- The word `async` before a method's name, which is then on the same line. -/
def asyncMethod (g : Grammar) (p : Place) : Scan Property := do
  advance
  sameLine
  let generator ← eatSign "*"
  let _ ← publicKey g p
  methodRest g ⟨true, generator⟩ false
  return .method

/-- One member of an object. -/
def property (g : Grammar) (p : Place) : Scan Property := do
  let after ← peekSome 1
  match after with
  | .sign "\x7d" | .sign "," => shorthand p
  | .sign "=" => initialised g p
  | _ =>
    match ← peek with
    | .sign "..." =>
      advance
      spreadProperty g p
    | .sign "*" =>
      advance
      let _ ← publicKey g p
      methodRest g ⟨false, true⟩ false
      return .method
    | .word "async" false =>
      if Token.isSign "(" after || Token.isSign ":" after then keyedProperty g p
      else asyncMethod g p
    | _ => keyedProperty g p

/-- The names that members bind as a pattern. Only the last one may take all that is left. -/
def propertyNames? : List Property → Option (List String)
  | [] => some []
  | q :: qs =>
    if q.remainder && !qs.isEmpty then none
    else
      match q.names?, propertyNames? qs with
      | some a, some b => some (a ++ b)
      | _, _ => none

/-- Members of an object after the opening brace. The prototype is given once at most, unless the
object is a pattern. -/
def object (g : Grammar) (p : Place) : Scan Term := do
  let step (acc : List Property × Bool) : Scan (Option (List Property × Bool)) := do
    let (qs, closed) := acc
    if closed then return none
    if ← eatSign "\x7d" then return some (qs, true)
    let q ← property g p
    if ← eatSign "\x7d" then return some (qs ++ [q], true)
    sign ","
    return some (qs ++ [q], false)
  let (qs, _) ← loop step ([], false)
  if 1 < (qs.filter (·.prototype)).length then
    unless ← atSign "=" do failure
  let form := Form.literal (propertyNames? qs)
  let loose := qs.foldl (fun n q => n + q.loose) 0
  return ⟨.other .misc, form, form.parameter? (← isStrict), loose⟩

end ChartNet.Script

import ChartNet.Script.Member

/-!
# Classes

Classes are strict throughout. Private names are declared by the members of a class and may be used
anywhere in its body; a name that no class around declares makes the script malformed.
-/

namespace ChartNet.Script

/-- How a private name is declared. -/
inductive Hidden where
  /-- by a field or a method -/
  | member
  /-- by an accessor -/
  | accessor (static : Bool) (a : Accessor)
deriving DecidableEq

/-- What a member of a class is to the class. -/
structure Element where
  /-- it is the constructor -/
  constructor : Bool
  /-- the private name that it declares -/
  declares? : Option (String × Hidden)

/-- A member that the class need not know of. -/
def Element.plain : Element := ⟨false, none⟩

/-- What stands before a member's name. -/
structure Modifiers where
  static : Bool
  kind : Kind
  accessor? : Option Accessor

/-- Something but `static` stands before a member's name, so that the member is a method. -/
def Modifiers.isAny (m : Modifiers) : Bool := m.kind.async || m.kind.generator || m.accessor?.isSome

/-- The lexeme can only follow a member's name, so that the word before it was that name. -/
def endsKey : Token → Bool
  | .sign s => ["=", "\x7d", "(", ";"].contains s
  | _ => false

/-- The lexeme can begin a member's name, or a block. -/
def beginsKey : Token → Bool
  | .word .. | .string .. | .numeral _ | .privateName _ => true
  | .sign s => ["[", "*", "\x7b"].contains s
  | _ => false

/-- Words and signs before a member's name, after any `static`. -/
def modifiers (static : Bool) : Scan Modifiers := do
  let plain : Modifiers := ⟨static, ⟨false, false⟩, none⟩
  let isKeyword := !endsKey (← peekSome 1)
  match ← peek with
  | .sign "*" =>
    advance
    return { plain with kind := ⟨false, true⟩ }
  | .word "async" false =>
    unless isKeyword do return plain
    if (← lineEndsAfter) == some true then return plain
    advance
    return { plain with kind := ⟨true, ← eatSign "*"⟩ }
  | .word w false =>
    match if isKeyword then Accessor.ofWord? w else none with
    | some a =>
      advance
      return { plain with accessor? := some a }
    | none => return plain
  | _ => return plain

/-- The private name that a member declares. -/
def declared? (m : Modifiers) : Key → Option (String × Hidden)
  | .hidden w => some (w, m.accessor?.elim .member (.accessor m.static ·))
  | _ => none

/-- Parameters and body of a method with these modifiers. A setter has one parameter. -/
def elementMethod (g : Grammar) (m : Modifiers) : Scan Unit := do
  match m.accessor? with
  | some .getter => getterRest g
  | some .setter =>
    let ps ← parameters g (.inside ⟨false, false⟩ true false)
    unless ps.count == 1 do failure
    setterBody g ps
  | none => methodRest g m.kind false

/-- The place of a field's initial value and of a static block. -/
def Place.initialiser : Place :=
  { Place.inside ⟨false, false⟩ true false with returns := false, argumentsAllowed := false }

/-- The rest of a field, after its name. -/
def fieldRest (g : Grammar) : Scan Unit := do
  if ← eatSign "=" then
    let (_, _) ← pausing (g.assignment .initialiser)
  stop

/-- A member with a name. -/
def namedElement (g : Grammar) (p : Place) (m : Modifiers) : Scan Element := do
  let key ← memberKey g p
  match key with
  | .hidden "constructor" => failure
  | _ => pure ()
  if m.isAny || (← atSign "(") then
    if m.isAny && !m.static && key.is "constructor" then failure
    if m.static && key.is "prototype" then failure
    elementMethod g m
  else
    if key.is "constructor" || (m.static && key.is "prototype") then failure
    fieldRest g
  return ⟨false, declared? m key⟩

/-- The constructor, after its name. -/
def constructorRest (g : Grammar) (derived : Bool) : Scan Element := do
  methodRest g ⟨false, false⟩ derived
  return ⟨true, none⟩

/-- A block that runs once for the class. -/
def staticBlock (g : Grammar) : Scan Element := do
  sign "\x7b"
  let ((is, _), paused) ← pausing (items g { Place.initialiser with awaits := true })
  sign "\x7d"
  if paused then failure
  let lexical := is.flatMap fun i => i.lexical ++ i.functions.map (·.1)
  unless scopeValid lexical (is.flatMap (·.vars)) do failure
  return .plain

/-- The word `static` comes next, and what it marks after it. -/
def eatStatic : Scan Bool := do
  if ← atWord "static" then
    if beginsKey (← peekSome 1) then
      advance
      return true
  return false

/-- One member of a class. -/
def element (g : Grammar) (p : Place) (derived : Bool) : Scan Element := do
  let static ← eatStatic
  match ← peek with
  | .sign "\x7b" => if static then staticBlock g else failure
  | .word "constructor" _ =>
    if !static && Token.isSign "(" (← peekSome 1) then
      advance
      constructorRest g derived
    else namedElement g p (← modifiers static)
  | _ => namedElement g p (← modifiers static)

/-- A private name is declared once, or by a getter and a setter that are both static or both
not. -/
def declarationsValid : List (String × Hidden) → Bool
  | [] => true
  | (w, h) :: ds =>
    let same : List Hidden := (ds.filter (·.1 == w)).map (·.2)
    let pairs : Bool := match h, same with
      | _, [] => true
      | .accessor s a, [.accessor t b] => s == t && decide (a ≠ b)
      | _, _ => false
    pairs && declarationsValid ds

/-- The members of a class after the opening brace. There is one constructor at most. -/
def elements (g : Grammar) (p : Place) (derived : Bool) : Scan (List (String × Hidden)) := do
  let step (acc : List (String × Hidden) × Bool × Bool) :
      Scan (Option (List (String × Hidden) × Bool × Bool)) := do
    let (ds, seen, closed) := acc
    if closed then return none
    if ← eatSign "\x7d" then return some (ds, seen, true)
    if ← eatSign ";" then return some (ds, seen, false)
    let e ← element g p derived
    if e.constructor && seen then failure
    return some (ds ++ e.declares?.toList, seen || e.constructor, false)
  let (ds, _, _) ← loop step ([], false, false)
  return ds

/-- The heritage and the members of a class. -/
def classRest (g : Grammar) (p : Place) : Scan Unit := do
  let derived ← eatWord "extends"
  if derived then
    let _ ← g.leftHand p
  sign "\x7b"
  let outer := (← get).hidden
  modify ({ · with hidden := [] })
  let ds ← elements g p derived
  unless declarationsValid ds do failure
  let names := ds.map (·.1)
  modify fun c => { c with hidden := outer ++ c.hidden.filter (!names.contains ·) }

/-- A class after the word `class`; its name, if it has one. -/
def klass (g : Grammar) (p : Place) : Scan (Option String) :=
  withStrict true do
    let p := p.withIn
    let unnamed ← match ← peek with
      | .word "extends" _ => pure true
      | .word .. => pure false
      | _ => pure true
    let name? ← if unnamed then pure none else pure (some (← bindingName p))
    classRest g p
    return name?

end ChartNet.Script

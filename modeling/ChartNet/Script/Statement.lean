import ChartNet.Script.Assignment

/-!
# Statements

The productions of statements and declarations. Only what a script's outcome can show is kept of
them: whether a statement is an expression, and the names that it declares.
-/

namespace ChartNet.Script

/-! ### Declarations -/

/-- Variables separated by commas, after the word `var`. -/
def variableList (g : Grammar) (p : Place) : Scan (List (List String × Bool)) := do
  let first ← declarator g p
  let step (ds : List (List String × Bool)) : Scan (Option (List (List String × Bool))) := do
    unless ← eatSign "," do return none
    return some (ds ++ [← declarator g p])
  loop step [first]

/-- Variables separated by commas, after the words `let` and `const`. They end where a statement may
end, so that a comma does not start a line; `head` says that they stand in the head of a loop. A
constant has an initial value. -/
def lexicalList (g : Grammar) (p : Place) (constant head : Bool) :
    Scan (List (List String × Bool)) := do
  let step (acc : List (List String × Bool) × Bool) :
      Scan (Option (List (List String × Bool) × Bool)) := do
    let (ds, closed) := acc
    if closed then return none
    let d ← declarator g p
    if constant && !head && !d.2 then failure
    let ds := ds ++ [d]
    if ← atStop then return some (ds, true)
    match ← peek with
    | .word w false =>
      unless w == "of" || w == "in" do failure
      return some (ds, true)
    | .sign "," =>
      advance
      return some (ds, false)
    | _ => failure
  let (ds, _) ← loop step ([], false)
  let names := ds.flatMap (·.1)
  if names.contains "let" || !scopeValid names [] then failure
  return ds

/-- A declaration by `let` or `const`, after its word. -/
def lexical (g : Grammar) (p : Place) (constant : Bool) : Scan Item := do
  let ds ← lexicalList g p.withIn constant false
  stop
  return ⟨none, ds.flatMap (·.1), [], [], []⟩

/-- The word `let` before this lexeme begins a declaration. -/
def followsLet : Token → Bool
  | .sign s => s == "[" || s == "\x7b"
  | .word w _ => !reservedWords.contains w && w != "of"
  | _ => false

/-- A declared function, after its word. -/
def functionDeclaration (g : Grammar) (p : Place) (async : Bool) : Scan Item := do
  match ← function g p async true with
  | (some name, k) => return ⟨none, [], [(name, !k.async && !k.generator)], [], []⟩
  | (none, _) => failure

/-- A declared class, after its word. -/
def classDeclaration (g : Grammar) (p : Place) : Scan Item := do
  match ← klass g p with
  | some name => return ⟨none, [name], [], [], []⟩
  | none => failure

/-! ### Blocks -/

/-- The items of a block up to its end, or up to the next case of a switch. -/
def blockItems (g : Grammar) (p : Place) : Scan (List Item) := do
  let step (done : List Item) : Scan (Option (List Item)) := do
    match ← peek with
    | .done | .sign "\x7d" => return none
    | .word "case" false | .word "default" false => return none
    | _ => return some (done ++ [← g.item p])
  loop step []

/-- The names that a block keeps to itself; its functions are among them. -/
def blockNames (is : List Item) : List String :=
  is.flatMap fun i => i.lexical ++ i.functions.map (·.1)

/-- The names of a block are declared once, and not by `var`. Outside strict mode ordinary functions
may share a name. -/
def blockValid (strict : Bool) (is : List Item) : Bool :=
  let others := is.flatMap fun i => i.lexical ++ (i.functions.filter (!·.2)).map (·.1)
  let functions := is.flatMap fun i => (i.functions.filter (·.2)).map (·.1)
  scopeValid (others ++ if strict then functions else functions.eraseDups) (is.flatMap (·.vars))

/-- A block in braces: the names that it keeps to itself, and those declared by `var`. -/
def blockParts (g : Grammar) (p : Place) : Scan (List String × List String) := do
  sign "\x7b"
  let is ← blockItems g p.part
  sign "\x7d"
  unless blockValid (← isStrict) is do failure
  return (blockNames is, is.flatMap (·.vars))

/-- A block in braces. -/
def block (g : Grammar) (p : Place) : Scan Item := do
  return .ofVars (← blockParts g p).2

/-! ### Choices -/

/-- An expression in parentheses. -/
def condition (g : Grammar) (p : Place) : Scan Unit := do
  sign "("
  let _ ← g.expression p.withIn
  sign ")"

/-- A choice, after its word. -/
def ifRest (g : Grammar) (p : Place) : Scan Item := do
  condition g p
  let yes ← g.statement p.part
  if ← eatWord "else" then
    let no ← g.statement p.part
    return .ofVars (yes.vars ++ no.vars)
  return .ofVars yes.vars

/-- The cases of a switch, after its word. -/
def switchRest (g : Grammar) (p : Place) : Scan Item := do
  condition g p
  sign "\x7b"
  let inner := { p.part with breakable := true }
  let step (acc : List Item × Bool × Bool) : Scan (Option (List Item × Bool × Bool)) := do
    let (done, seen, closed) := acc
    if closed then return none
    match ← take with
    | .word "case" false =>
      let _ ← g.expression p.withIn
      sign ":"
      return some (done ++ (← blockItems g inner), seen, false)
    | .word "default" false =>
      if seen then failure
      sign ":"
      return some (done ++ (← blockItems g inner), true, false)
    | .sign "\x7d" => return some (done, seen, true)
    | _ => failure
  let (is, _, _) ← loop step ([], false, false)
  unless blockValid (← isStrict) is do failure
  return .ofVars (is.flatMap (·.vars))

/-- What is done about an exception, after the word `catch`. The block does not declare the
exception's name again, nor by `var` a name of its pattern. -/
def catchRest (g : Grammar) (p : Place) : Scan (List String) := do
  if ← eatSign "(" then
    let pattern ← atPattern
    let names ← g.binding p
    sign ")"
    unless scopeValid names [] do failure
    let (kept, vars) ← blockParts g p
    if names.any kept.contains || (pattern && names.any vars.contains) then failure
    return vars
  else return (← blockParts g p).2

/-- A guarded block, after its word. -/
def tryRest (g : Grammar) (p : Place) : Scan Item := do
  let guarded ← block g p
  let caught ← eatWord "catch"
  let handled ← if caught then catchRest g p else pure []
  if ← eatWord "finally" then
    let last ← block g p
    return .ofVars (guarded.vars ++ handled ++ last.vars)
  unless caught do failure
  return .ofVars (guarded.vars ++ handled)

/-! ### Jumps -/

/-- A jump out of a loop or to its next round, after its word: the label, if it names one. -/
def jumpLabel? (p : Place) : Scan (Option String) := do
  if ← atStop then
    stop
    return none
  let w ← identifier p
  stop
  return some w

/-- A jump out of a statement, after its word. -/
def breakRest (p : Place) : Scan Item := do
  match ← jumpLabel? p with
  | some w => unless p.labels.contains w do failure
  | none => unless p.breakable do failure
  return .plain

/-- A jump to the next round of a loop, after its word. -/
def continueRest (p : Place) : Scan Item := do
  match ← jumpLabel? p with
  | some w => unless p.loopLabels.contains w do failure
  | none => pure ()
  unless p.continuable do failure
  return .plain

/-- The end of a function, after its word. -/
def returnRest (g : Grammar) (p : Place) : Scan Item := do
  unless p.returns do failure
  unless ← atStop do
    let _ ← g.expression p.withIn
  stop
  return .plain

/-- An exception, after its word, on the same line. A semicolon may follow; nothing else ends the
statement. -/
def throwRest (g : Grammar) (p : Place) : Scan Item := do
  sameLine
  let _ ← g.expression p.withIn
  let _ ← eatSign ";"
  return .plain

end ChartNet.Script

import ChartNet.Script.Loop

/-!
# Items

A statement is told by its first lexeme; a name at its start is a label if a colon follows. An item
is a statement or a declaration.
-/

namespace ChartNet.Script

/-- A statement that is an expression. It does not start like a declaration. -/
def expressionStatement (g : Grammar) (p : Place) : Scan Item := do
  match ← peekSome 0 with
  | .word "function" _ | .word "class" _ => failure
  | .word "async" false => if Token.isWord "function" (← peekSome 1) then failure
  | .word "let" false => if Token.isSign "[" (← peekSome 1) then failure
  | _ => pure ()
  let t ← g.expression p.withIn
  stop
  return ⟨some t.expr, [], [], [], []⟩

/-- A statement with a label. A function has no label. -/
def labelled (g : Grammar) (p : Place) : Scan Item := do
  let w ← identifier p
  sign ":"
  if p.labels.contains w then failure
  if ← atWord "function" then failure
  let i ← g.statement { p with labels := w :: p.labels, ownLabels := w :: p.ownLabels }
  return .ofVars i.vars

/-- A statement that starts with a name: with a label, or an expression. -/
def namedStatement (g : Grammar) (p : Place) : Scan Item := do
  expectOperator
  if Token.isSign ":" (← peekAt 1) then labelled g p else expressionStatement g p

/-- Variables declared by `var`, after their word. -/
def variableStatement (g : Grammar) (p : Place) : Scan Item := do
  let names := (← variableList g p.withIn).flatMap (·.1)
  stop
  return { Item.ofVars names with ownVars := names }

/-- A statement for which names are looked up in an object, after its word. -/
def withRest (g : Grammar) (p : Place) : Scan Item := do
  if ← isStrict then failure
  condition g p
  let s ← g.statement p.part
  return .ofVars s.vars

/-- The rest of a statement that starts with this word, if there is such a statement. -/
def statementAfter? (g : Grammar) (p : Place) : String → Option (Scan Item)
  | "var" => some (variableStatement g p)
  | "if" => some (ifRest g p)
  | "while" => some (whileRest g p)
  | "do" => some (doRest g p)
  | "for" => some (forRest g p)
  | "switch" => some (switchRest g p)
  | "try" => some (tryRest g p)
  | "with" => some (withRest g p)
  | "continue" => some (continueRest p)
  | "break" => some (breakRest p)
  | "return" => some (returnRest g p)
  | "throw" => some (throwRest g p)
  | _ => none

/-- A statement. -/
def statement (g : Grammar) (p : Place) : Scan Item := do
  match ← peekSome 0 with
  | .sign "\x7b" => block g p
  | .sign ";" =>
    advance
    return .plain
  | .word w escaped =>
    match if escaped then none else statementAfter? g p w with
    | some rest =>
      advance
      rest
    | none =>
      if reservedWords.contains w || guardedWords.contains w then
        expressionStatement g p
      else namedStatement g p
  | _ => expressionStatement g p

/-- A function declared after the word `async`, or a statement that starts with it. -/
def asyncItem (g : Grammar) (p : Place) : Scan Item := do
  let apart := (← lineEndsAfter).getD true
  if Token.isWord "function" (← peekAt 1) && !apart then
    advance
    advance
    functionDeclaration g p true
  else statement g p

/-- A statement or a declaration. -/
def item (g : Grammar) (p : Place) : Scan Item := do
  match ← peekSome 0 with
  | .word "function" false =>
    advance
    functionDeclaration g p false
  | .word "class" false =>
    advance
    classDeclaration g p
  | .word "const" false =>
    advance
    lexical g p true
  | .word "let" false =>
    if followsLet (← peekAt 1) then
      advance
      lexical g p false
    else statement g p
  | .word "async" _ => asyncItem g p
  | _ => statement g p

end ChartNet.Script

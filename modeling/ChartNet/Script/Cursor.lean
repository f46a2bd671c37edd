import ChartNet.Script.Lexer

/-!
# Reading lexemes

A `Cursor` stands in a script. Lexemes that were looked at and not yet taken wait in front of it;
the characters behind them are not cut yet, and how they will be cut depends on what the reader
expects when it first looks at them.

A `Scan` moves a cursor and may fail. Why a script is malformed is never told, so failure carries no
reason, and no reader goes back: what comes next is decided by looking ahead.
-/

namespace ChartNet.Script

/-- A place in a script, with what the reader has to remember of the part before it. -/
structure Cursor where
  /-- lexemes that were looked at -/
  ahead : List Token
  /-- characters that were not cut yet -/
  rest : List Char
  /-- a slash begins a regular expression -/
  operand : Bool
  /-- strict mode -/
  strict : Bool
  /-- members of the form `a = 1` in braces that did not turn out to be a pattern so far -/
  loose : Nat
  /-- private names that were used and not declared so far -/
  hidden : List String
  /-- something paused a generator or an asynchronous function -/
  paused : Bool

/-- A reader of scripts. -/
abbrev Scan := StateT Cursor Option

namespace Cursor

/-- The start of a script. -/
def start (cs : List Char) : Cursor := ⟨[], cs, true, false, 0, [], false⟩

/-- Cuts off one more lexeme; says whether it is well formed. A malformed one is lost. -/
def fill (c : Cursor) : Bool × Cursor :=
  match Lexer.next (c.ahead.getLast?.any Token.isLineEnd) c.operand c.strict c.rest with
  | (some t, rest) => (true, { c with ahead := c.ahead ++ [t], rest })
  | (none, rest) => (false, { c with rest })

/-- The lexeme with this number among those that wait; line ends count only if `lines` says so.
Nothing comes after the end of the script. -/
def find? (lines : Bool) : Nat → List Token → Option Token
  | _, [] => none
  | n, t :: ts =>
    if t.isDone then some t
    else if t.isLineEnd && !lines then find? lines n ts
    else match n with
      | 0 => some t
      | n + 1 => find? lines n ts

/-- Cuts until the lexeme with this number waits, unless one before it is malformed. -/
def look (lines : Bool) (n : Nat) : Nat → Cursor → Option Token × Cursor
  | 0, c => (none, c)
  | fuel + 1, c =>
    match find? lines n c.ahead with
    | some t => (some t, c)
    | none =>
      match c.fill with
      | (true, c) => look lines n fuel c
      | (false, c) => (none, c)

end Cursor

/-- The lexeme after `n` others, which is left where it is; line ends do not count. At most one line
end stands before each lexeme, which bounds how many lexemes have to be cut. -/
def peekAt (n : Nat) : Scan Token := fun c =>
  match c.look false n (2 * n + 4) with
  | (some t, c) => some (t, c)
  | (none, _) => none

/-- The next lexeme. -/
def peek : Scan Token := peekAt 0

/-- The next lexeme after this one, if it is well formed; a malformed one is passed over. -/
def peekOver : Scan (Option Token) := fun c => some (c.look false 1 6)

/-- A line ends after `n` lexemes, line ends included; none if the script ends before. -/
def lineEndAt (n : Nat) : Scan (Option Bool) := fun c =>
  match c.look true n (n + 2) with
  | (some t, c) => some (if t.isDone then none else some t.isLineEnd, c)
  | (none, _) => none

/-- A line ends after the next lexeme, before which another one may end; none if the script ends
there. -/
def lineEndsAfter : Scan (Option Bool) := do
  if (← lineEndAt 0) == some true then lineEndAt 2 else lineEndAt 1

/-- The next lexeme or the line's end before it. -/
def peekRaw : Scan Token := fun c =>
  match c.look true 0 2 with
  | (some t, c) => some (t, c)
  | (none, _) => none

/-- Takes what waits first; the end of the script stays. -/
def dropRaw : Scan Unit := modify fun c =>
  match c.ahead with
  | t :: ts => if t.isDone then c else { c with ahead := ts }
  | [] => c

/-- Takes the next lexeme. -/
def take : Scan Token := do
  let t ← peekRaw
  dropRaw
  if t.isLineEnd then
    let t ← peekRaw
    dropRaw
    return t
  return t

/-- Goes past the next lexeme. -/
def advance : Scan Unit := do
  let _ ← take

/-- From here on a slash begins a regular expression. -/
def expectOperand : Scan Unit := modify ({ · with operand := true })

/-- From here on a slash is an operator. -/
def expectOperator : Scan Unit := modify ({ · with operand := false })

/-- Strict mode holds here. -/
def isStrict : Scan Bool := return (← get).strict

/-- Reads with strict mode switched on or off. -/
def withStrict {α : Type} (strict : Bool) (p : Scan α) : Scan α := do
  let before ← isStrict
  modify ({ · with strict })
  let a ← p
  modify ({ · with strict := before })
  return a

/-- The next lexeme is this sign. -/
def atSign (s : String) : Scan Bool := return Token.isSign s (← peek)

/-- The next lexeme is this word. -/
def atWord (w : String) : Scan Bool := return Token.isWord w (← peek)

/-- Takes this sign if it comes next. -/
def eatSign (s : String) : Scan Bool := do
  if ← atSign s then
    advance
    return true
  else return false

/-- Takes this word if it comes next. -/
def eatWord (w : String) : Scan Bool := do
  if ← atWord w then
    advance
    return true
  else return false

/-- This sign must come next. -/
def sign (s : String) : Scan Unit := do
  unless Token.isSign s (← take) do failure

/-- This word must come next. -/
def word (w : String) : Scan Unit := do
  unless Token.isWord w (← take) do failure

/-- The next lexeme, which must not be the end of the script. -/
def peekSome (n : Nat) : Scan Token := do
  let t ← peekAt n
  if t.isDone then failure
  return t

/-- No line ends before the next lexeme, which is not the end of the script. -/
def sameLine : Scan Unit := do
  let t ← peekRaw
  if t.isDone || t.isLineEnd then failure

/-- A statement may end here: at a semicolon, the end of a line, a closing brace, or the end of the
script. -/
def atStop : Scan Bool := do
  match ← peekRaw with
  | .sign s => return s == ";" || s == "\x7d"
  | .lineEnd | .done => return true
  | _ => return false

/-- The end of a statement. A semicolon or the end of a line is taken, but not both. -/
def stop : Scan Unit := do
  match ← peekRaw with
  | .sign s =>
    if s == ";" then dropRaw
    else unless s == "\x7d" do failure
  | .lineEnd => dropRaw
  | .done => pure ()
  | _ => failure

/-- Repeats a step as long as it goes on, at most `fuel` times. -/
def repeatFrom {α : Type} (step : α → Scan (Option α)) : Nat → α → Scan α
  | 0, a => pure a
  | fuel + 1, a => do
    match ← step a with
    | some b => repeatFrom step fuel b
    | none => pure a

/-- Repeats a step as long as it goes on. A step that goes on takes at least one lexeme, so the
number of lexemes and characters left bounds the number of steps. -/
def loop {α : Type} (step : α → Scan (Option α)) (start : α) : Scan α := do
  let c ← get
  repeatFrom step (c.ahead.length + c.rest.length + 1) start

/-- Reads a piece of a template that goes on after a substitution. -/
def templatePiece : Scan (Bool × Bool) := fun c =>
  match Escape.template c.rest with
  | (some (.template valid last), rest) => some ((valid, last), { c with rest })
  | _ => none

/-- Reads a regular expression whose slash was already taken for an operator. -/
def regexpRest : Scan Unit := fun c =>
  match Regexp.scan c.rest with
  | (some _, rest) => some ((), { c with rest, operand := true })
  | _ => none

end ChartNet.Script

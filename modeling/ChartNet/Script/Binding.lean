import ChartNet.Script.Scan

/-!
# Keys and binding patterns

How members are named, and what can stand where a variable is bound: a name, or a pattern of
brackets or braces that takes a value apart. A pattern yields the names it binds. The commas between
the parts of a pattern may be left out.
-/

namespace ChartNet.Script

/-- How a member is named. -/
inductive Key where
  /-- a word; `escaped` if some letter is spelled by its code -/
  | word (text : String) (escaped : Bool)
  /-- a string -/
  | text (text : String)
  /-- a number, or an expression in brackets -/
  | computed
  /-- a private name -/
  | hidden (text : String)

/-- The member is spelled so, as a word or as a string. -/
def Key.is (text : String) : Key → Bool
  | .word w _ => w == text
  | .text w => w == text
  | _ => false

/-- The key is not spelled out as a name. -/
def Key.isComputed : Key → Bool
  | .computed => true
  | _ => false

/-- The name of a member. -/
def memberKey (g : Grammar) (p : Place) : Scan Key := do
  match ← take with
  | .word w escaped => return .word w escaped
  | .string us _ _ => return .text (String.ofList ((Escape.decodeUnits? us).getD []))
  | .numeral _ => return .computed
  | .privateName w => return .hidden w
  | .sign "[" =>
    let _ ← g.assignment p.withIn
    sign "]"
    return .computed
  | _ => failure

/-- The name of a member outside classes, where there are no private names. -/
def publicKey (g : Grammar) (p : Place) : Scan Key := do
  match ← memberKey g p with
  | .hidden _ => failure
  | key => return key

/-- An initial value, if there is one. -/
def initial? (g : Grammar) (p : Place) : Scan Bool := do
  if ← eatSign "=" then
    let _ ← g.assignment p
    return true
  else return false

/-- A pattern in brackets, in which places may be left out and the last element may take all that is
left. -/
def bracketPattern (g : Grammar) (p : Place) : Scan (List String) := do
  sign "["
  let step (acc : List String × Bool) : Scan (Option (List String × Bool)) := do
    let (names, closed) := acc
    if closed then return none
    if ← eatSign "]" then return some (names, true)
    if ← eatSign "," then return some (names, false)
    if ← eatSign "..." then
      let more ← g.binding p
      sign "]"
      return some (names ++ more, true)
    let more ← g.binding p
    let _ ← initial? g p.withIn
    return some (names ++ more, false)
  let (names, _) ← loop step ([], false)
  return names

/-- A colon comes after the next lexeme, or that lexeme can only be a key. -/
def atKey : Scan Bool := do
  match ← peek with
  | .sign s => return s == "["
  | .string .. | .numeral _ => return true
  | .word .. => return Token.isSign ":" (← peekSome 1)
  | _ => return false

/-- A pattern in braces; what is left goes to a name. -/
def bracePattern (g : Grammar) (p : Place) : Scan (List String) := do
  sign "\x7b"
  let step (acc : List String × Bool) : Scan (Option (List String × Bool)) := do
    let (names, closed) := acc
    if closed then return none
    if ← eatSign "\x7d" then return some (names, true)
    if ← eatSign "..." then
      let x ← bindingName p
      sign "\x7d"
      return some (names ++ [x], true)
    let more ←
      if ← atKey then
        let _ ← publicKey g p
        sign ":"
        g.binding p
      else pure [← bindingName p]
    let _ ← initial? g p.withIn
    let _ ← eatSign ","
    return some (names ++ more, false)
  let (names, _) ← loop step ([], false)
  return names

/-- A name or a pattern that is bound, with the names in it. -/
def binding (g : Grammar) (p : Place) : Scan (List String) := do
  if ← atSign "[" then bracketPattern g p
  else if ← atSign "\x7b" then bracePattern g p
  else return [← bindingName p]

/-- The next lexeme begins a pattern. -/
def atPattern : Scan Bool := do
  match ← peek with
  | .sign s => return s == "[" || s == "\x7b"
  | _ => return false

/-- One variable of a declaration; whether it has an initial value. -/
def declarator (g : Grammar) (p : Place) : Scan (List String × Bool) := do
  let names ← g.binding p
  let initialised ← initial? g p
  return (names, initialised)

end ChartNet.Script

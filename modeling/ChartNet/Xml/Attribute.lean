import ChartNet.Decimal.Literal
import ChartNet.Xml.Basic

/-!
# Attributes and entities

The attributes of a tag are read one at a time, in order, so that a reader may stop at one that it
does not want before a later one turns out to be malformed. Values are kept as written; `unescape`
replaces the entities in them.
-/

namespace ChartNet.Xml

/-- Why the next attribute cannot be read. -/
inductive AttributeFault where
  /-- no equals sign follows the name -/
  | expectedEq
  /-- the name was there before -/
  | duplicated
  /-- nothing follows the equals sign -/
  | expectedValue
  /-- the value does not begin with a quotation mark -/
  | unquotedValue
  /-- the value does not end with one -/
  | expectedQuote
deriving DecidableEq, Repr

/-- Why a value's entities cannot be replaced. -/
inductive EntityFault where
  /-- no semicolon ends the entity -/
  | unterminated
  /-- the number is not that of a character -/
  | invalidCharacter
  /-- there is no entity of the name -/
  | unrecognised
deriving DecidableEq, Repr

/-- An attribute as it is written, and the text after it. -/
structure RawAttribute where
  /-- the name of the attribute -/
  key : String
  /-- the value between its quotation marks, entities included -/
  value : List Char
  /-- the text after it -/
  rest : List Char

/-- The character ends an attribute's name. -/
def endsKey (c : Char) : Bool := c = '=' || isSpace c

/-- The value of an attribute after its equals sign. -/
def attributeValue (cs : List Char) : Except AttributeFault (List Char × List Char) :=
  match cs.dropWhile isSpace with
  | [] => .error .expectedValue
  | q :: cs =>
    if q = '"' || q.toNat = 0x27 then
      match cs.dropWhile (· != q) with
      | _ :: rest => .ok (cs.takeWhile (· != q), rest)
      | [] => .error .expectedQuote
    else .error .unquotedValue

/-- The next attribute; none at the end of the text. The first character of a name is always a part
of it, also an equals sign. `seen` are the names of the attributes before. -/
def nextAttribute (seen : List String) (cs : List Char) :
    Except AttributeFault (Option RawAttribute) :=
  match cs.dropWhile isSpace with
  | [] => .ok none
  | c :: cs =>
    let key := String.ofList (c :: cs.takeWhile (!endsKey ·))
    match (cs.dropWhile (!endsKey ·)).dropWhile isSpace with
    | '=' :: cs =>
      if seen.contains key then .error .duplicated
      else (attributeValue cs).map fun (value, rest) => some ⟨key, value, rest⟩
    | _ => .error .expectedEq

/-! ### Entities -/

/-- The character with a code, if there is one; the null character cannot be written so. -/
def charOfCode? (n : Nat) : Option Char :=
  if n = 0 then none else if h : n.isValidChar then some (Char.ofNatAux n h) else none

/-- The value of a hexadecimal digit. -/
def hexValue? (c : Char) : Option Nat :=
  if c.isDigit then some (Decimal.digitValue c)
  else
    let l := c.toLower
    if 'a'.toNat ≤ l.toNat && l.toNat ≤ 'f'.toNat then some (l.toNat - 'a'.toNat + 10) else none

/-- The number that hexadecimal digits spell; at least one digit, and nothing else. -/
def hex? (cs : List Char) : Option Nat :=
  if cs.isEmpty then none
  else cs.foldlM (fun n c => (hexValue? c).map (16 * n + ·)) 0

/-- The number that decimal digits spell; at least one digit, and nothing else. -/
def decimal? (cs : List Char) : Option Nat :=
  if cs.isEmpty || !cs.all Char.isDigit then none else some (Decimal.natOf cs)

/-- What an entity stands for: a character by its code, or one of the five that have names. -/
def entity (name : List Char) : Except EntityFault Char :=
  match name with
  | '#' :: 'x' :: cs => ((hex? cs).bind charOfCode?).elim (.error .invalidCharacter) .ok
  | '#' :: cs => ((decimal? cs).bind charOfCode?).elim (.error .invalidCharacter) .ok
  | _ =>
    match String.ofList name with
    | "lt" => .ok '<'
    | "gt" => .ok '>'
    | "amp" => .ok '&'
    | "apos" => .ok (Char.ofNat 0x27)
    | "quot" => .ok '"'
    | _ => .error .unrecognised

/-- Replaces the entities of a value. `name` holds, backwards, what was read of an entity that is
still open. An entity runs to the next semicolon, before which no other entity may begin. -/
def unescapeFrom : Option (List Char) → List Char → Except EntityFault (List Char)
  | none, [] => .ok []
  | some _, [] => .error .unterminated
  | none, c :: cs =>
    if c = '&' then unescapeFrom (some []) cs else (unescapeFrom none cs).map (c :: ·)
  | some name, c :: cs =>
    if c = '&' then .error .unterminated
    else if c = ';' then do
      let e ← entity name.reverse
      let rest ← unescapeFrom none cs
      return e :: rest
    else unescapeFrom (some (c :: name)) cs

/-- Replaces the entities of a value. -/
def unescape (cs : List Char) : Except EntityFault String :=
  (unescapeFrom none cs).map String.ofList

/-- How a character is written in a value. -/
def escapeChar (c : Char) : List Char :=
  match c with
  | '<' => "&lt;".toList
  | '>' => "&gt;".toList
  | '&' => "&amp;".toList
  | '"' => "&quot;".toList
  | c => if c.toNat = 0x27 then "&apos;".toList else [c]

/-- How a text is written as a value. -/
def escape (s : String) : List Char := s.toList.flatMap escapeChar

end ChartNet.Xml

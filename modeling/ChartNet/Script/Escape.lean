import ChartNet.Script.Numeral

/-!
# Escapes, strings and templates

The characters of a string are UTF-16 units, because an escape may spell half of a surrogate pair
and two such halves join. `decodeUnits?` gives the text back where the halves all match.

The digits of an escape are a hexadecimal number of fixed or free width, which may start with a plus
sign.
-/

namespace ChartNet.Escape

/-- The characters that end a line. -/
def isLineEnd (c : Char) : Bool :=
  c = '\n' || c = '\r' || c.toNat = 0x2028 || c.toNat = 0x2029

/-- The UTF-16 units of a code point. -/
def unitsOf (n : Nat) : List Nat :=
  if n < 0x10000 then [n]
  else [0xD800 + (n - 0x10000) / 0x400, 0xDC00 + (n - 0x10000) % 0x400]

/-- The first half of a surrogate pair. -/
def isHigh (u : Nat) : Bool := 0xD800 ≤ u && u < 0xDC00

/-- The second half of a surrogate pair. -/
def isLow (u : Nat) : Bool := 0xDC00 ≤ u && u < 0xE000

/-- The characters that the units spell, unless half of a pair stands alone. -/
def decodeUnits? : List Nat → Option (List Char)
  | [] => some []
  | [u] => if isHigh u || isLow u then none else some [Char.ofNat u]
  | u :: v :: us =>
    if isHigh u && isLow v then
      (decodeUnits? us).map (Char.ofNat (0x10000 + (u - 0xD800) * 0x400 + (v - 0xDC00)) :: ·)
    else if isHigh u || isLow u then none
    else (decodeUnits? (v :: us)).map (Char.ofNat u :: ·)

/-- A hexadecimal number that takes up the whole text, with at least one digit. -/
def hexadecimal? (cs : List Char) : Option Nat :=
  let ds := match cs with
    | '+' :: ds => ds
    | ds => ds
  if !ds.isEmpty && ds.all (Numeral.isDigitOf 16) then some (Numeral.natOfDigits 16 ds) else none

/-- The code after `\u`: four characters, or any number of them in braces. Whether it is one or not,
what follows. -/
def code? : List Char → Option Nat × List Char
  | '\x7b' :: cs =>
    let inside := cs.takeWhile (· != '\x7d')
    let rest := cs.dropWhile (· != '\x7d')
    (if rest.isEmpty then none else (hexadecimal? inside).filter (· ≤ 0x10FFFF), rest.drop 1)
  | cs => (if cs.length < 4 then none else hexadecimal? (cs.take 4), cs.drop 4)

/-- What a backslash and the characters after it stand for. -/
structure Meaning where
  units : List Nat
  /-- an octal escape, or a digit that only looks like one -/
  legacy : Bool

/-- The octal digits of an escape: three if the first is at most `3`, else two. -/
def octal (c : Char) (cs : List Char) : Option Meaning × List Char :=
  let more := if c.toNat ≤ '3'.toNat then 2 else 1
  let ds := c :: (cs.take more).takeWhile (Numeral.isDigitOf 8)
  (some ⟨[Numeral.natOfDigits 8 ds], true⟩, cs.drop (ds.length - 1))

/-- What a letter after a backslash stands for. -/
def letter : Char → Nat
  | 'n' => 0x0A
  | 't' => 0x09
  | 'r' => 0x0D
  | 'b' => 0x08
  | 'v' => 0x0B
  | 'f' => 0x0C
  | c => c.toNat

/-- The meaning of an escape, after its backslash. A line end stands for nothing. -/
def meaning? : List Char → Option Meaning × List Char
  | [] => (none, [])
  | 'x' :: cs =>
    let n? := if cs.length < 2 then none else hexadecimal? (cs.take 2)
    (n?.map fun n => ⟨[n], false⟩, cs.drop 2)
  | 'u' :: cs =>
    let (n?, rest) := code? cs
    (n?.map fun n => ⟨unitsOf n, false⟩, rest)
  | '\r' :: '\n' :: cs => (some ⟨[], false⟩, cs)
  | c :: cs =>
    if isLineEnd c then (some ⟨[], false⟩, cs)
    else if c = '0' && !(cs.head?.any Char.isDigit) then (some ⟨[0], false⟩, cs)
    else if Numeral.isDigitOf 8 c then octal c cs
    else if c = '8' || c = '9' then (some ⟨[c.toNat], true⟩, cs)
    else (some ⟨unitsOf (letter c), false⟩, cs)

/-- The units of a string up to its closing quote and whether it has a legacy escape, unless the
string is malformed; what follows. In strict mode there are no legacy escapes. The fuel is the
number of characters left. -/
def stringBody (strict : Bool) (quote : Char) :
    Nat → List Char → Option (List Nat × Bool) × List Char
  | 0, cs => (none, cs)
  | _, [] => (none, [])
  | fuel + 1, c :: cs =>
    if c = quote then (some ([], false), cs)
    else if c = '\\' then
      match meaning? cs with
      | (some m, rest) =>
        if strict && m.legacy then (none, rest)
        else
          let (body?, rest) := stringBody strict quote fuel rest
          (body?.map fun (us, legacy) => (m.units ++ us, m.legacy || legacy), rest)
      | (none, rest) => (none, rest)
    else if c = '\n' || c = '\r' then (none, cs)
    else
      let (body?, rest) := stringBody strict quote fuel cs
      (body?.map fun (us, legacy) => (unitsOf c.toNat ++ us, legacy), rest)

/-- Reads a string literal after its opening quote. -/
def string (strict : Bool) (quote : Char) (cs : List Char) : Cut :=
  let (body?, rest) := stringBody strict quote (cs.length + 1) cs
  (body?.map fun (us, legacy) => .string us (cs.take (cs.length - rest.length - 1)) legacy, rest)

/-- The mark at both ends of a template. -/
def isBacktick (c : Char) : Bool := c.toNat = 0x60

/-- A piece of a template up to its closing mark or the next substitution: its text, whether it is
the last piece, and what follows. -/
def templateBody : List Char → Option (List Char × Bool) × List Char
  | [] => (none, [])
  | '$' :: '\x7b' :: cs => (some ([], false), cs)
  | '\\' :: c :: cs =>
    if isBacktick c || c = '$' || c = '\\' then
      let (body?, rest) := templateBody cs
      (body?.map fun (text, last) => ('\\' :: c :: text, last), rest)
    else
      let (body?, rest) := templateBody (c :: cs)
      (body?.map fun (text, last) => ('\\' :: text, last), rest)
  | c :: cs =>
    if isBacktick c then (some ([], true), cs)
    else
      let (body?, rest) := templateBody cs
      (body?.map fun (text, last) => (c :: text, last), rest)

/-- The escapes of a piece of a template are valid; none is a legacy one. The fuel is the number of
characters left. -/
def templateValid : Nat → List Char → Bool
  | 0, _ => false
  | _ + 1, [] => true
  | fuel + 1, '\\' :: cs =>
    match meaning? cs with
    | (some m, rest) => !m.legacy && templateValid fuel rest
    | (none, _) => false
  | fuel + 1, _ :: cs => templateValid fuel cs

/-- Reads a piece of a template, after its opening mark or the end of a substitution. -/
def template (cs : List Char) : Cut :=
  let (body?, rest) := templateBody cs
  (body?.map fun (text, last) => .template (templateValid (text.length + 1) text) last, rest)

end ChartNet.Escape

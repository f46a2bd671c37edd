import ChartNet.Decimal.Literal
import ChartNet.Script.Token

/-!
# Numeric literals

Decimal literals with optional fraction and exponent, whole literals in hexadecimal, octal and
binary, octal ones that merely start with a zero, and whole literals of unbounded size.

An exponent may follow digits of any base in which `e` is no digit; such a literal is read as a
decimal one. A literal is the double nearest to it, and counts as a whole number if that double is
one of 32 bits.
-/

namespace ChartNet.Numeral

/-- The value of a digit in any base up to sixteen. -/
def digit? (base : Nat) (c : Char) : Option Nat :=
  let n := c.toNat
  let v :=
    if '0'.toNat ≤ n && n ≤ '9'.toNat then some (n - '0'.toNat)
    else if 'a'.toNat ≤ n && n ≤ 'f'.toNat then some (n - 'a'.toNat + 10)
    else if 'A'.toNat ≤ n && n ≤ 'F'.toNat then some (n - 'A'.toNat + 10)
    else none
  v.filter (· < base)

/-- The character is a digit of the base. -/
def isDigitOf (base : Nat) (c : Char) : Bool := (digit? base c).isSome

/-- The exact value of a run of digits. -/
def natOfDigits (base : Nat) (ds : List Char) : Nat :=
  ds.foldl (fun n c => base * n + (digit? base c).getD 0) 0

/-- The digits of a run, unless underscores stand where they may not, and what follows the run. A
single underscore may stand before a digit, if `separators` says so; `gap` says that one came just
before. -/
def run (base : Nat) (separators : Bool) : Bool → List Char → Option (List Char) × List Char
  | gap, c :: cs =>
    if isDigitOf base c then
      let (ds?, rest) := run base separators false cs
      (ds?.map (c :: ·), rest)
    else if c = '_' then
      if separators && !gap then run base separators true cs else (none, cs)
    else (if gap then none else some [], c :: cs)
  | gap, [] => (if gap then none else some [], [])

/-- A literal without fraction and exponent. -/
def ofDigits (base : Nat) (ds : List Char) : Numeral :=
  let n := natOfDigits base ds
  if n < Nat.pow 2 31 then .integer (Int64.ofNat n) else .number (Decimal.ofDecimal n 0)

/-- A literal with a fraction or an exponent. A whole number of 32 bits is read off the double's
mantissa and exponent; only literals without sign get here. -/
def ofFloat (x : Float) : Numeral :=
  match Decimal.Binary.ofFloat x with
  | .finite _ m q =>
    let whole := if 0 ≤ q then m * Nat.pow 2 q.toNat else m / Nat.pow 2 (-q).toNat
    if (0 ≤ q || m % Nat.pow 2 (-q).toNat == 0) && whole < Nat.pow 2 31 then
      .integer (Int64.ofNat whole)
    else .number x
  | _ => .number x

/-- No letter, digit, underscore or dollar sign may follow a literal directly. -/
def endsHere : List Char → Bool
  | c :: _ => !(c.isAlphanum || c = '$' || c = '_')
  | [] => true

/-- Ends a literal: what follows must not look like a part of it. -/
def close (n : Numeral) (rest : List Char) : Cut :=
  (if endsHere rest then some (.numeral n) else none, rest)

/-- The digits of an exponent, with their sign, after the mark. -/
def exponent? (cs : List Char) : Option Int × List Char :=
  let signed := cs.head? = some '+' || cs.head? = some '-'
  let (negative, ds) := Decimal.takeSign cs
  if ds.head?.any Char.isDigit then
    let (digits?, rest) := run 10 true false ds
    (digits?.map fun ds =>
      let e := Int.ofNat (natOfDigits 10 ds)
      if negative then -e else e, rest)
  else (none, if signed then ds else cs.drop 1)

/-- What may follow the digits before and after the point: an exponent, or the end. -/
def scaled (digits : List Char) (places : Nat) (cs : List Char) : Cut :=
  let value (e : Int) : Numeral :=
    ofFloat (Decimal.ofDecimal (natOfDigits 10 digits) (e - Int.ofNat places))
  match cs with
  | c :: cs =>
    if c = 'e' || c = 'E' then
      match exponent? cs with
      | (some e, rest) => close (value e) rest
      | (none, rest) => (none, rest)
    else close (value 0) (c :: cs)
  | [] => close (value 0) []

/-- A fraction after the point. -/
def fraction (whole : List Char) (cs : List Char) : Cut :=
  if cs.head? = some '_' then (none, cs)
  else match run 10 true false cs with
    | (some ds, rest) => scaled (whole ++ ds) ds.length rest
    | (none, rest) => (none, rest)

/-- A literal whose digits before any point are read; `legacy` if a needless zero came first. -/
def tail (base : Nat) (legacy : Bool) (whole : List Char) : List Char → Cut
  | '.' :: rest =>
    if base = 10 then fraction whole rest else close (ofDigits base whole) ('.' :: rest)
  | 'n' :: rest => if legacy then (none, 'n' :: rest) else close .big rest
  | c :: rest =>
    if c = 'e' || c = 'E' then scaled whole 0 (c :: rest)
    else close (ofDigits base whole) (c :: rest)
  | [] => close (ofDigits base whole) []

/-- A whole literal after its base mark. -/
def based (base : Nat) (cs : List Char) : Cut :=
  if cs.head?.any (isDigitOf base) then
    match run base true false cs with
    | (some ds, rest) => tail base false ds rest
    | (none, rest) => (none, rest)
  else (none, cs)

/-- A literal that starts with a zero and a digit: octal if all its digits are, else decimal.
Digits are not separated in it. -/
def zeroLed (cs : List Char) : Cut :=
  let ds := cs.takeWhile Char.isDigit
  let rest := cs.dropWhile Char.isDigit
  if rest.head? = some '_' then (none, rest.drop 1)
  else if ds.all (isDigitOf 8) then tail 8 true ds rest
  else tail 10 true ds rest

/-- Reads the numeric literal at the start of the text, which is a digit or a point before one. In
strict mode no needless zero may come first. -/
def scan (strict : Bool) : List Char → Cut
  | '0' :: 'x' :: cs | '0' :: 'X' :: cs => based 16 cs
  | '0' :: 'o' :: cs | '0' :: 'O' :: cs => based 8 cs
  | '0' :: 'b' :: cs | '0' :: 'B' :: cs => based 2 cs
  | '0' :: 'n' :: cs => (some (.numeral .big), cs)
  | '0' :: c :: cs =>
    if c.isDigit then if strict then (none, c :: cs) else zeroLed (c :: cs)
    else tail 10 false ['0'] (c :: cs)
  | '.' :: cs => fraction [] cs
  | cs =>
    match run 10 true false cs with
    | (some ds, rest) => tail 10 false ds rest
    | (none, rest) => (none, rest)

end ChartNet.Numeral

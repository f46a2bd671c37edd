import ChartNet.Decimal.Binary

/-!
# Reading numbers

A number is an optional sign and then either a word for what is no ordinary number (`inf`,
`infinity`, `nan`, in any case) or decimal digits with an optional point and an optional exponent.
At least one digit stands before or after the point, and at least one in an exponent. The result is
the nearest double.
-/

namespace ChartNet.Decimal

/-- The value of a decimal digit. -/
def digitValue (c : Char) : Nat := c.toNat - '0'.toNat

/-- The number that a run of decimal digits spells. -/
def natOf (cs : List Char) : Nat := cs.foldl (fun n c => 10 * n + digitValue c) 0

/-- Splits off a sign; the flag says that it is a minus. -/
def takeSign : List Char → Bool × List Char
  | '-' :: cs => (true, cs)
  | '+' :: cs => (false, cs)
  | cs => (false, cs)

/-- The digits in front, and what follows them. -/
def takeDigits (cs : List Char) : List Char × List Char :=
  (cs.takeWhile Char.isDigit, cs.dropWhile Char.isDigit)

/-- The fraction digits after a point, if there is a point. -/
def takeFraction : List Char → List Char × List Char
  | '.' :: cs => takeDigits cs
  | cs => ([], cs)

/-- The exponent, which runs to the end of the text. -/
def exponent? : List Char → Option Int
  | [] => some 0
  | c :: cs =>
    if c == 'e' || c == 'E' then
      let (negative, cs) := takeSign cs
      if !cs.isEmpty && cs.all Char.isDigit then
        some (if negative then -Int.ofNat (natOf cs) else Int.ofNat (natOf cs))
      else none
    else none

/-- A decimal without sign. -/
def unsigned? (cs : List Char) : Option Float :=
  let (whole, cs) := takeDigits cs
  let (fraction, cs) := takeFraction cs
  if whole.isEmpty && fraction.isEmpty then none
  else (exponent? cs).map fun e =>
    ofDecimal (natOf (whole ++ fraction)) (e - Int.ofNat fraction.length)

/-- The words for what is no ordinary number. -/
def word? (cs : List Char) : Option Float :=
  let w := cs.map Char.toLower
  if w == ['i', 'n', 'f'] || w == ['i', 'n', 'f', 'i', 'n', 'i', 't', 'y'] then some (1.0 / 0.0)
  else if w == ['n', 'a', 'n'] then some (0.0 / 0.0)
  else none

/-- Reads a number that makes up the whole text. -/
def read? (s : String) : Option Float :=
  let (negative, cs) := takeSign s.toList
  ((word? cs).or (unsigned? cs)).map fun x => if negative then -x else x

end ChartNet.Decimal

import ChartNet.Decimal.Shortest

/-!
# How numbers are written

Two notations over the same shortest digits:

* `positional`: never an exponent and no fraction for whole numbers; used in messages, in documents
  and for the values of expressions.
* `manifest`: always a fraction or an exponent, an exponent outside `10 ^ -5 ≤ x < 10 ^ 16`; used in
  the timer manifest.
-/

namespace ChartNet.Decimal

/-- A run of zeros. -/
def zeros (n : Nat) : List Char := List.replicate n '0'

/-- The decimal digits of a natural number. -/
def digitsOf (n : Nat) : List Char := Nat.toDigits 10 n

/-- Digits with the point moved to where the exponent says; whole numbers get no point. -/
def Scaled.positional (d : Scaled) : List Char :=
  let ds := digitsOf d.digits
  if 0 ≤ d.exponent then ds ++ zeros d.exponent.toNat
  else
    let places := (-d.exponent).toNat
    if places < ds.length then
      ds.take (ds.length - places) ++ '.' :: ds.drop (ds.length - places)
    else '0' :: '.' :: zeros (places - ds.length) ++ ds

/-- A double without an exponent: the shortest digits, padded with zeros. -/
def positional (x : Float) : String :=
  match Binary.ofFloat x with
  | .nan => "NaN"
  | .infinite negative => if negative then "-inf" else "inf"
  | .finite negative m q =>
    let body := if m == 0 then ['0'] else (shortest .up m q x.abs.toBits).positional
    String.ofList (if negative then '-' :: body else body)

/-- The exponent of the leading digit. -/
def Scaled.leading (d : Scaled) : Int := d.exponent + Int.ofNat (digitsOf d.digits).length - 1

/-- One digit, the point and the others if there are any, and a signed exponent. -/
def Scaled.exponential (d : Scaled) : List Char :=
  let fraction := match digitsOf d.digits with
    | [] => []
    | [c] => [c]
    | c :: cs => c :: '.' :: cs
  let e := d.leading
  fraction ++ 'e' :: (if e < 0 then '-' else '+') :: digitsOf e.natAbs

/-- A decimal as the manifest shows it. -/
def Scaled.manifest (d : Scaled) : List Char :=
  if -5 ≤ d.leading && d.leading < 16 then
    if 0 ≤ d.exponent then d.positional ++ ['.', '0'] else d.positional
  else d.exponential

/-- A double as the manifest shows it; what is no number has no notation there. -/
def manifest (x : Float) : String :=
  match Binary.ofFloat x with
  | .nan | .infinite _ => "null"
  | .finite negative m q =>
    let body := if m == 0 then ['0', '.', '0'] else (shortest .even m q x.abs.toBits).manifest
    String.ofList (if negative then '-' :: body else body)

end ChartNet.Decimal

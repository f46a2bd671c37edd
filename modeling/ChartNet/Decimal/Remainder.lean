import ChartNet.Decimal.Binary

/-!
# The remainder of doubles

The remainder of a division that is cut off toward zero: the result has the sign of the dividend and
is exact, because both numbers are whole multiples of the smaller of their two units.
-/

namespace ChartNet.Decimal

/-- The double that stands for `± mantissa · 2 ^ exponent`. -/
def ofBinary (negative : Bool) (mantissa : Nat) (exponent : Int) : Float :=
  let x :=
    if 0 ≤ exponent then ofDecimal (mantissa * Nat.pow 2 exponent.toNat) 0
    else ofDecimal (mantissa * Nat.pow 5 (-exponent).toNat) exponent
  if negative then -x else x

/-- The remainder of `x` by `y`. -/
def remainder (x y : Float) : Float :=
  match Binary.ofFloat x, Binary.ofFloat y with
  | .finite negative m p, .finite _ n q =>
    if n == 0 then 0.0 / 0.0
    else
      let unit := min p q
      let a := m * Nat.pow 2 (p - unit).toNat
      let b := n * Nat.pow 2 (q - unit).toNat
      ofBinary negative (a % b) unit
  | .finite .., .infinite _ => x
  | _, _ => 0.0 / 0.0

end ChartNet.Decimal

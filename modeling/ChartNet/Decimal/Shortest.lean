import ChartNet.Decimal.Binary

/-!
# The shortest decimal of a double

Of all decimals that read back as a given positive double, the one with the fewest digits; among
those, the one nearest to the double; an exact tie is left to the format (`Tie`).

The search walks the decimal grids from coarse to fine. On each grid only the two neighbours of the
double can be nearest, so only they are read back. Seventeen digits always suffice; the exact
expansion stands behind them so that the search needs no proof to be total.
-/

namespace ChartNet.Decimal

/-- A positive decimal, `digits · 10 ^ exponent`. -/
structure Scaled where
  /-- the digits, as one number -/
  digits : Nat
  /-- the power of ten that the last digit counts -/
  exponent : Int
deriving DecidableEq, Repr

/-- Which neighbour is taken when a double lies half-way between the two. -/
inductive Tie where
  /-- the larger one -/
  | up
  /-- the one whose last digit is even -/
  | even
deriving DecidableEq, Repr

/-- The number `mantissa · 2 ^ exponent / 10 ^ unit` as a fraction of natural numbers. -/
def ratio (mantissa : Nat) (exponent unit : Int) : Nat × Nat :=
  (mantissa * Nat.pow 2 exponent.toNat * Nat.pow 10 (-unit).toNat,
    Nat.pow 2 (-exponent).toNat * Nat.pow 10 unit.toNat)

/-- The number is at least the given power of ten. -/
def reaches (mantissa : Nat) (exponent power : Int) : Bool :=
  let (num, den) := ratio mantissa exponent power
  den ≤ num

/-- The power of ten of the leading digit. The binary length gives it up to one. -/
def leadingPower (mantissa : Nat) (exponent : Int) : Int :=
  let guess := Int.fdiv ((Int.ofNat mantissa.log2 + exponent) * 30103) 100000
  if reaches mantissa exponent (guess + 1) then guess + 1
  else if reaches mantissa exponent guess then guess
  else guess - 1

/-- Moves trailing zeros from the digits into the exponent. The fuel bounds the number of zeros. -/
def dropZeros : Nat → Scaled → Scaled
  | 0, d => d
  | fuel + 1, d =>
    if d.digits % 10 == 0 && d.digits != 0 then dropZeros fuel ⟨d.digits / 10, d.exponent + 1⟩
    else d

/-- The decimal reads back as the double with these bits. -/
def Scaled.readsAs (d : Scaled) (bits : UInt64) : Bool :=
  (ofDecimal d.digits d.exponent).toBits == bits

/-- The nearer of the double's two neighbours on the grid of step `10 ^ unit` that reads back. -/
def neighbour? (tie : Tie) (bits : UInt64) (mantissa : Nat) (exponent unit : Int) : Option Scaled :=
  let (num, den) := ratio mantissa exponent unit
  let below : Scaled := ⟨num / den, unit⟩
  let above : Scaled := ⟨num / den + 1, unit⟩
  let twice := 2 * (num % den)
  let belowFirst :=
    twice < den || (twice == den && tie == .even && below.digits % 2 == 0)
  let (first, second) := if belowFirst then (below, above) else (above, below)
  if first.readsAs bits then some first
  else if second.readsAs bits then some second
  else none

/-- The exact decimal expansion. -/
def exact (mantissa : Nat) (exponent : Int) : Scaled :=
  if 0 ≤ exponent then ⟨mantissa * Nat.pow 2 exponent.toNat, 0⟩
  else ⟨mantissa * Nat.pow 5 (-exponent).toNat, exponent⟩

/-- The shortest decimal that reads back as the positive double `mantissa · 2 ^ exponent`. -/
def shortest (tie : Tie) (mantissa : Nat) (exponent : Int) (bits : UInt64) : Scaled :=
  let lead := leadingPower mantissa exponent
  let found := (List.range 17).findSome? fun n =>
    neighbour? tie bits mantissa exponent (lead - Int.ofNat n)
  dropZeros 400 (found.getD (exact mantissa exponent))

end ChartNet.Decimal

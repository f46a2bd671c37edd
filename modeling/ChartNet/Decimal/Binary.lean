/-!
# Doubles as exact numbers

A finite double is `± mantissa · 2 ^ exponent`, read off its bits; a decimal
`digits · 10 ^ exponent` becomes the double nearest to it.

* `Binary`: what a double stands for.
* `nearestBits`: the double nearest to a fraction, ties to the even mantissa.
* `ofDecimal`: the double nearest to a decimal.
-/

namespace ChartNet.Decimal

/-- What a double stands for. -/
inductive Binary where
  /-- not a number -/
  | nan
  /-- an infinity -/
  | infinite (negative : Bool)
  /-- the number `± mantissa · 2 ^ exponent`, zero included -/
  | finite (negative : Bool) (mantissa : Nat) (exponent : Int)
deriving DecidableEq, Repr

/-- Reads the sign, the eleven exponent bits and the fraction off a double. -/
def Binary.ofFloat (x : Float) : Binary :=
  let bits := x.toBits.toNat
  let negative := bits / Nat.pow 2 63 == 1
  let biased := bits / Nat.pow 2 52 % Nat.pow 2 11
  let fraction := bits % Nat.pow 2 52
  if biased == 2047 then
    if fraction == 0 then .infinite negative else .nan
  else if biased == 0 then .finite negative fraction (-1074)
  else .finite negative (Nat.pow 2 52 + fraction) (Int.ofNat biased - 1075)

/-- A fraction as a whole number, a half to the even neighbour. -/
def roundEven (num den : Nat) : Nat :=
  let below := num / den
  let twice := 2 * (num % den)
  if twice < den || (twice == den && below % 2 == 0) then below else below + 1

/-- The bits of the infinity, which are those of one more than the largest double. -/
def infiniteBits : Nat := 2047 * Nat.pow 2 52

/-- The least positive double is `2 ^ -leastPlace`. -/
def leastPlace : Nat := 1074

/-- The bits of the double nearest to a fraction. The fraction is counted in units of the least
positive double, and `place` is the power of two that the last bit of its mantissa counts. Doubles
next to each other have bits next to each other, so a mantissa that is rounded up to a power of two
carries into the exponent by itself. -/
def nearestBits (num den : Nat) : Nat :=
  let units := num * Nat.pow 2 leastPlace
  let place := (units / den).log2 - 52
  min (place * Nat.pow 2 52 + roundEven units (den * Nat.pow 2 place)) infiniteBits

/-- The bits of the double nearest to `digits · 10 ^ exponent`. Where the exponent alone decides, no
power of ten is computed. -/
def decimalBits (digits : Nat) (exponent : Int) : Nat :=
  if digits = 0 || exponent < -(400 + Int.ofNat digits.log2) then 0
  else if 400 < exponent then infiniteBits
  else nearestBits (digits * Nat.pow 10 exponent.toNat) (Nat.pow 10 (-exponent).toNat)

/-- The double nearest to `digits · 10 ^ exponent`. -/
def ofDecimal (digits : Nat) (exponent : Int) : Float :=
  Float.ofBits (UInt64.ofNat (decimalBits digits exponent))

end ChartNet.Decimal

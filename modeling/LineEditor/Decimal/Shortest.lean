import LineEditor.Decimal.Binary

/-!
# Shortest decimals

The decimal text of a floating-point number is the one with the fewest digits
among those that round to the number, and the nearest of these.  For each number
of digits from one to seventeen the two neighbours of the value on that decimal
grid are tested against the interval of reals that round to the value; the ends
belong to the interval exactly when the mantissa is even.

`Real64.text` writes the digits found: positionally when the decimal point falls
at most sixteen digits to the right of the first digit and at most three zeros
precede it, and with an exponent of at least two digits otherwise.
-/

set_option autoImplicit false

namespace LineEditor.Decimal

/-- The reals that round to a number, as numerators over a common denominator. -/
structure RoundingInterval where
  low : Nat
  value : Nat
  high : Nat
  denominator : Nat
  closed : Bool

/-- The interval of a positive number. -/
def RoundingInterval.of (mantissa : Nat) (exponent : Int) : RoundingInterval :=
  let below := if 2 * mantissa == mantissaBound && exponent > leastExponent then 1 else 2
  let scale := if exponent ≥ 2 then Nat.pow 2 (exponent - 2).toNat else 1
  { low := (4 * mantissa - below) * scale
    value := 4 * mantissa * scale
    high := (4 * mantissa + 2) * scale
    denominator := if exponent ≥ 2 then 1 else Nat.pow 2 (2 - exponent).toNat
    closed := mantissa % 2 == 0 }

/-- Whether a quotient lies in the interval. -/
def RoundingInterval.contains (interval : RoundingInterval) (numerator denominator : Nat) : Bool :=
  let point := numerator * interval.denominator
  let low := interval.low * denominator
  let high := interval.high * denominator
  if interval.closed then low ≤ point && point ≤ high else low < point && point < high

/-- The number of decimal digits before the point, or minus the number of zeros after it. -/
def magnitude (numerator denominator : Nat) : Int :=
  if numerator ≥ denominator then (Nat.toDigits 10 (numerator / denominator)).length
  else
    let zeros := (List.range 400).find? fun count =>
      numerator * Nat.pow 10 (count + 1) ≥ denominator
    Int.neg (zeros.getD 400)

/-- The grid point with the given number of digits that lies in the interval and is nearest to
its value: a whole number of units and the power of ten of the unit. -/
def nearestOnGrid (interval : RoundingInterval) (digits : Nat) : Option (Nat × Int) :=
  let unit : Int := magnitude interval.value interval.denominator - digits
  let up := if unit ≥ 0 then Nat.pow 10 unit.toNat else 1
  let down := if unit ≥ 0 then 1 else Nat.pow 10 (-unit).toNat
  let below := interval.value * down / (interval.denominator * up)
  let rest := interval.value * down - below * (interval.denominator * up)
  let belowFits := interval.contains (below * up) down
  let aboveFits := interval.contains ((below + 1) * up) down
  if belowFits && aboveFits then
    let twice := 2 * rest
    let width := interval.denominator * up
    if twice < width || (twice == width && below % 2 == 0) then some (below, unit)
    else some (below + 1, unit)
  else if belowFits then some (below, unit)
  else if aboveFits then some (below + 1, unit)
  else none

/-- The shortest decimal of a positive number: whole number of units and power of ten. -/
def shortest (mantissa : Nat) (exponent : Int) : Nat × Int :=
  let interval := RoundingInterval.of mantissa exponent
  ((List.range 17).findSome? fun count => nearestOnGrid interval (count + 1)).getD
    (mantissa, 0)

/-- Digits and the place of the point after dropping trailing zeros. -/
def significant (units : Nat) (power : Int) : List Char × Int :=
  let digits := Nat.toDigits 10 units
  let kept := (digits.reverse.dropWhile (· == '0')).reverse
  (kept, digits.length + power)

/-- The positional or scientific text of significant digits. -/
def layOut (digits : List Char) (point : Int) : String :=
  if -4 < point && point ≤ 16 then
    if point ≤ 0 then
      "0." ++ String.ofList (List.replicate (-point).toNat '0' ++ digits)
    else
      let place := point.toNat
      let whole := digits.take place ++ List.replicate (place - digits.length) '0'
      let fraction := digits.drop place
      String.ofList whole ++ "." ++ (if fraction.isEmpty then "0" else String.ofList fraction)
  else
    let fraction := digits.drop 1
    let power := point - 1
    let size := toString power.natAbs
    String.ofList (digits.take 1)
      ++ (if fraction.isEmpty then "" else "." ++ String.ofList fraction)
      ++ "e" ++ (if power < 0 then "-" else "+") ++ (if size.length < 2 then "0" ++ size else size)

/-- The text of a number. -/
def Real64.text : Real64 → String
  | .notANumber => "nan"
  | .infinite negative => if negative then "-inf" else "inf"
  | .finite negative mantissa exponent =>
    (if negative then "-" else "") ++
      (if mantissa == 0 then "0.0"
      else
        let (units, power) := shortest mantissa exponent
        let (digits, point) := significant units power
        layOut digits point)

end LineEditor.Decimal

/-!
# Binary floating point

Numbers of the 64-bit binary format as exact values: a finite number is a whole
mantissa times a power of two, and no machine arithmetic is involved.

`Real64.ofRatio` rounds an exact quotient to the nearest such number, a half to
the even mantissa, and gives infinity beyond the largest one.
-/

set_option autoImplicit false

namespace LineEditor.Decimal

/-- A number of the 64-bit binary format. -/
inductive Real64 where
  | finite (negative : Bool) (mantissa : Nat) (exponent : Int)
  | infinite (negative : Bool)
  | notANumber
  deriving DecidableEq

/-- The least exponent of a mantissa. -/
def leastExponent : Int := -1074

/-- The greatest exponent of a full mantissa. -/
def greatestExponent : Int := 971

/-- The numbers below this one are mantissas: two to the power of 53. -/
def mantissaBound : Nat := 9007199254740992

/-- A quotient rounded to the nearest whole number, a half to the even one. -/
def roundQuotient (numerator denominator : Nat) : Nat :=
  let quotient := numerator / denominator
  let rest := 2 * (numerator % denominator)
  if rest > denominator || (rest == denominator && quotient % 2 == 1) then quotient + 1
  else quotient

/-- A quotient divided by a power of two and rounded. -/
def roundScaled (numerator denominator : Nat) (exponent : Int) : Nat :=
  if exponent ≥ 0 then roundQuotient numerator (denominator * Nat.pow 2 exponent.toNat)
  else roundQuotient (numerator * Nat.pow 2 (-exponent).toNat) denominator

namespace Real64

/-- The number nearest to an exact quotient. -/
def ofRatio (negative : Bool) (numerator denominator : Nat) : Real64 :=
  if numerator == 0 then .finite negative 0 leastExponent
  else
    let estimate : Int := (numerator.log2 : Int) - denominator.log2 - 53
    let mantissaAt (exponent : Int) := roundScaled numerator denominator exponent
    let start := max estimate leastExponent
    let exponent :=
      if mantissaAt start < mantissaBound then start
      else if mantissaAt (start + 1) < mantissaBound then start + 1
      else start + 2
    if exponent > greatestExponent then .infinite negative
    else .finite negative (mantissaAt exponent) exponent

/-- Whether a number is below zero. -/
def isNegative : Real64 → Bool
  | .finite negative mantissa _ => negative && mantissa != 0
  | .infinite negative => negative
  | .notANumber => false

/-- The comparison with a quotient of whole numbers: whether the number is below it. -/
def lessThan (value : Real64) (numerator denominator : Nat) : Bool :=
  match value with
  | .finite negative mantissa exponent =>
    if negative && mantissa != 0 then true
    else if exponent ≥ 0 then mantissa * Nat.pow 2 exponent.toNat * denominator < numerator
    else mantissa * denominator < numerator * Nat.pow 2 (-exponent).toNat
  | .infinite negative => negative
  | .notANumber => false

end Real64

end LineEditor.Decimal

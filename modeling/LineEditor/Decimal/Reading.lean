import LineEditor.Decimal.Binary
import LineEditor.Text.Numeral

/-!
# Reading decimals

A decimal is an optional sign, digits with an optional point among them or
before them, and an optional power of ten, or one of the words for infinity and
for no number in any case.  White space may surround it, digits of every script
count, and single underscores may stand between digits.

The value is the floating-point number nearest to the exact decimal.
-/

set_option autoImplicit false

namespace LineEditor.Decimal

open LineEditor.Text

/-- The nearest number to `units` times a power of ten.  Powers far outside the range of the
format are decided by the number of digits alone. -/
def ofDecimal (negative : Bool) (units : Nat) (power : Int) : Real64 :=
  if units == 0 then .finite negative 0 leastExponent
  else
    let magnitude : Int := (Nat.toDigits 10 units).length + power
    if magnitude > 400 then .infinite negative
    else if magnitude < -400 then .finite negative 0 leastExponent
    else if power ≥ 0 then .ofRatio negative (units * Nat.pow 10 power.toNat) 1
    else .ofRatio negative units (Nat.pow 10 (-power).toNat)

/-- Removes underscores that stand between two digits; any other underscore is an error. -/
def dropGroups (previousIsDigit : Bool) : List Char → Option (List Char)
  | [] => some []
  | '_' :: next :: rest =>
    if previousIsDigit && next.isDigit then (dropGroups true rest).map (next :: ·) else none
  | char :: rest =>
    if char = '_' then none else (dropGroups char.isDigit rest).map (char :: ·)

/-- The power of ten after the digits, if the rest of the text is one. -/
def readPower? : List Char → Option Int
  | [] => some 0
  | mark :: rest =>
    if mark == 'e' || mark == 'E' then
      let (negative, digits) := takeSign rest
      if digits.isEmpty || !digits.all Char.isDigit then none
      else
        let value : Int := digitsValue digits
        some (if negative then -value else value)
    else none

/-- The decimal written by plain characters without sign. -/
def readUnsigned? (negative : Bool) (chars : List Char) : Option Real64 :=
  let word := String.ofList (chars.map Char.toLower)
  if word == "inf" || word == "infinity" then some (.infinite negative)
  else if word == "nan" then some .notANumber
  else
    let whole := chars.takeWhile Char.isDigit
    let afterWhole := chars.dropWhile Char.isDigit
    let (fraction, rest) := match afterWhole with
      | '.' :: tail => (tail.takeWhile Char.isDigit, tail.dropWhile Char.isDigit)
      | _ => ([], afterWhole)
    if whole.isEmpty && fraction.isEmpty then none
    else (readPower? rest).map fun power =>
      ofDecimal negative (digitsValue (whole ++ fraction)) (power - fraction.length)

/-- The number that a text writes, if it writes one. -/
def readReal? (text : String) : Option Real64 :=
  let (negative, body) := takeSign (trim isPlainBlank (plainForm text))
  (dropGroups false body).bind (readUnsigned? negative)

end LineEditor.Decimal

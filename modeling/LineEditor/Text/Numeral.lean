import LineEditor.Text.Blank
import LineEditor.Text.Digit

/-!
# Reading numerals

Whole numbers as a user may write them: white space around them, a sign, decimal
digits of any script, and single underscores between digits.  A numeral with
more than `digitLimit` digits is refused, because reading it could take long;
leading zeros count (`NumeralFault`).

`plainForm` is the step that lets one reader serve every script: it replaces
the decimal digits of all scripts by those of ASCII, and white space by the
space, unless the text is already ASCII, in which case nothing is touched.
-/

set_option autoImplicit false

namespace LineEditor.Text

/-- Why a text is no numeral. -/
inductive NumeralFault where
  | tooManyDigits (count : Nat)
  | malformed
  deriving DecidableEq

/-- The most digits a numeral may have. -/
def digitLimit : Nat := 4300

/-- One character of the plain form of a text. -/
def plainChar (char : Char) : Char :=
  if char.toNat < 128 then char
  else if isBlank char then ' '
  else match digitValue? char with
    | some value => Nat.digitChar value
    | none => '?'

/-- The characters of a text with all scripts' digits and blanks as those of ASCII. -/
def plainForm (text : String) : List Char :=
  if text.toList.all (·.toNat < 128) then text.toList else text.toList.map plainChar

/-- The number written by a list of decimal digits of any script. -/
def digitsValue (digits : List Char) : Nat :=
  digits.foldl (fun value digit => 10 * value + (digitValue? digit).getD 0) 0

/-- The number written by a run of decimal digits, unless there are too many of them. -/
def readDigits (digits : List Char) : Except NumeralFault Nat :=
  if digits.length > digitLimit then .error (.tooManyDigits digits.length)
  else .ok (digitsValue digits)

/-- Takes digits, and single underscores between them, off the front of a text.  Gives the
digits and the rest, or nothing when an underscore has no digit on both sides. -/
def takeGrouped : List Char → Option (List Char × List Char)
  | [] => some ([], [])
  | '_' :: next :: rest =>
    if next.isDigit then (takeGrouped rest).map fun (digits, after) => (next :: digits, after)
    else none
  | char :: rest =>
    if char.isDigit then (takeGrouped rest).map fun (digits, after) => (char :: digits, after)
    else if char = '_' then none
    else some ([], char :: rest)

/-- Splits a leading sign off a text: whether it is a minus, and the rest. -/
def takeSign : List Char → Bool × List Char
  | '-' :: rest => (true, rest)
  | '+' :: rest => (false, rest)
  | chars => (false, chars)

/-- The whole number that a text writes. -/
def readInteger (text : String) : Except NumeralFault Int :=
  let (negative, body) := takeSign ((plainForm text).dropWhile isPlainBlank)
  match body with
  | '_' :: _ => .error .malformed
  | _ =>
    match takeGrouped body with
    | none => .error .malformed
    | some (digits, rest) =>
      if digits.length > digitLimit then .error (.tooManyDigits digits.length)
      else if digits.isEmpty || !rest.all isPlainBlank then .error .malformed
      else .ok (if negative then -(digitsValue digits : Int) else digitsValue digits)

end LineEditor.Text

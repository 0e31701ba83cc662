/-!
# Digits

A decimal digit is one of the characters with the decimal digit property of
Unicode 14.  These come in blocks of ten in a row, from zero to nine, so the
table holds only where each block starts, and a digit's value is its distance
from that start (`digitValue?`).

`isDigitLike` is the wider class that also holds superscript, subscript and
circled digits, which have a digit value but form no numbers.
-/

set_option autoImplicit false

namespace LineEditor.Text

/-- The zeros: where each block of ten decimal digits starts. -/
def digitBlocks : List Nat :=
  [
    48, 1632, 1776, 1984, 2406, 2534, 2662, 2790, 2918, 3046, 3174, 3302, 3430, 3558,
    3664, 3792, 3872, 4160, 4240, 6112, 6160, 6470, 6608, 6784, 6800, 6992, 7088, 7232,
    7248, 42528, 43216, 43264, 43472, 43504, 43600, 44016, 65296, 66720, 68912, 69734, 69872, 69942,
    70096, 70384, 70736, 70864, 71248, 71360, 71472, 71904, 72016, 72784, 73040, 73120, 92768, 92864,
    93008, 120782, 120792, 120802, 120812, 120822, 123200, 123632, 125264, 130032]

/-- The value of a decimal digit. -/
def digitValue? (char : Char) : Option Nat :=
  (digitBlocks.find? fun start => start ≤ char.toNat && char.toNat < start + 10).map
    (char.toNat - ·)

/-- Whether a character is a decimal digit. -/
def isDigit (char : Char) : Bool :=
  (digitValue? char).isSome

/-- First and last code points of the digits that are no decimal digits. -/
def otherDigits : List (Nat × Nat) :=
  [
    (178, 179), (185, 185), (4969, 4977), (6618, 6618), (8304, 8304),
    (8308, 8313), (8320, 8329), (9312, 9320), (9332, 9340), (9352, 9360),
    (9450, 9450), (9461, 9469), (9471, 9471), (10102, 10110), (10112, 10120),
    (10122, 10130), (68160, 68163), (69216, 69224), (69714, 69722), (127232, 127242)]

/-- Whether a character is a digit of any kind. -/
def isDigitLike (char : Char) : Bool :=
  isDigit char || otherDigits.any fun (first, last) => first ≤ char.toNat && char.toNat ≤ last

end LineEditor.Text

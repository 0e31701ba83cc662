/-!
# Unambiguous listing

The form in which a line is listed so that every character can be told: control
characters are escaped, by name where they have one and in three octal digits
otherwise, a backslash and a dollar sign are escaped by a backslash, and a bare
dollar sign ends the listing.
-/

set_option autoImplicit false

namespace LineEditor.Text

/-- The octal digits of a number below 512, always three. -/
def threeOctalDigits (value : Nat) : List Char :=
  [value / 64, value / 8 % 8, value % 8].map Nat.digitChar

/-- The listed form of one character. -/
def listedChar (char : Char) : List Char :=
  if char = '\\' then ['\\', '\\']
  else if char = '$' then ['\\', '$']
  else if char = '\x07' then ['\\', 'a']
  else if char = '\x08' then ['\\', 'b']
  else if char = '\x0c' then ['\\', 'f']
  else if char = '\n' then ['\\', 'n']
  else if char = '\r' then ['\\', 'r']
  else if char = '\t' then ['\\', 't']
  else if char = '\x0b' then ['\\', 'v']
  else if char.toNat < 32 ∨ char.toNat = 127 then '\\' :: threeOctalDigits char.toNat
  else [char]

/-- The listed form of a line. -/
def listedLine (line : String) : String :=
  String.ofList (line.toList.flatMap listedChar ++ ['$'])

end LineEditor.Text

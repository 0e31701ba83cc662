import LineEditor.Text.Printable

/-!
# Quoted texts

Two written forms of a text.

`quote` puts a text between single quotes, or between double quotes when it
holds single quotes and no double ones.  A backslash and the closing quote are
escaped, line feed, carriage return and tab have names, and every other
character that is not printable is written by its code point in two, four or
eight hexadecimal digits.

`asciiLiteral` is the form of an interchange format: double quotes, and every
character outside printable ASCII as one or two 16-bit units in hexadecimal.
-/

set_option autoImplicit false

namespace LineEditor.Text

/-- A number in hexadecimal, padded with zeros to the given width. -/
def hexadecimal (width value : Nat) : String :=
  let digits := Nat.toDigits 16 value
  String.ofList (List.replicate (width - digits.length) '0' ++ digits)

/-- The mark that `quote` puts around a text. -/
def quoteMark (text : String) : Char :=
  if text.toList.contains '\'' && !text.toList.contains '"' then '"' else '\''

/-- One character inside a quoted text. -/
def quoteChar (mark char : Char) : String :=
  if char == mark || char == '\\' then "\\" ++ char.toString
  else if char == '\n' then "\\n"
  else if char == '\r' then "\\r"
  else if char == '\t' then "\\t"
  else if isPrintable char then char.toString
  else if char.toNat < 0x100 then "\\x" ++ hexadecimal 2 char.toNat
  else if char.toNat < 0x10000 then "\\u" ++ hexadecimal 4 char.toNat
  else "\\U" ++ hexadecimal 8 char.toNat

/-- A text between quotes, with everything unprintable escaped. -/
def quote (text : String) : String :=
  let mark := quoteMark text
  mark.toString ++ String.join (text.toList.map (quoteChar mark)) ++ mark.toString

/-- One character inside an ASCII literal. -/
def asciiLiteralChar (char : Char) : String :=
  if char == '"' then "\\\""
  else if char == '\\' then "\\\\"
  else if char == '\n' then "\\n"
  else if char == '\r' then "\\r"
  else if char == '\t' then "\\t"
  else if char.toNat == 8 then "\\b"
  else if char.toNat == 12 then "\\f"
  else if 32 ≤ char.toNat && char.toNat < 127 then char.toString
  else if char.toNat < 0x10000 then "\\u" ++ hexadecimal 4 char.toNat
  else
    let offset := char.toNat - 0x10000
    "\\u" ++ hexadecimal 4 (0xD800 + offset / 0x400) ++ "\\u" ++ hexadecimal 4 (0xDC00 + offset % 0x400)

/-- A text as an ASCII literal between double quotes. -/
def asciiLiteral (text : String) : String :=
  "\"" ++ String.join (text.toList.map asciiLiteralChar) ++ "\""

end LineEditor.Text

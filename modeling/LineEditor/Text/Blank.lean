/-!
# White space

The characters that count as white space, and the two operations on texts that
depend on them: `strip` takes white space off both ends, and `isBlankText` says
that nothing else is there.

The set is that of the Unicode white space property together with the four
separators U+001C to U+001F.  The zero width space U+200B and the byte order
mark U+FEFF do not belong to it.
-/

set_option autoImplicit false

namespace LineEditor.Text

/-- Whether a character is white space. -/
def isBlank (char : Char) : Bool :=
  let point := char.toNat
  (9 ≤ point && point ≤ 13) || (28 ≤ point && point ≤ 32) || point == 0x85 || point == 0xA0
    || point == 0x1680 || (0x2000 ≤ point && point ≤ 0x200A) || point == 0x2028
    || point == 0x2029 || point == 0x202F || point == 0x205F || point == 0x3000

/-- Whether a character is one of the six white-space characters of ASCII text. -/
def isPlainBlank (char : Char) : Bool :=
  let point := char.toNat
  (9 ≤ point && point ≤ 13) || point == 32

/-- The characters of a text without the leading and trailing ones that satisfy `drop`. -/
def trim (drop : Char → Bool) (chars : List Char) : List Char :=
  ((chars.dropWhile drop).reverse.dropWhile drop).reverse

/-- A text without the white space at its two ends. -/
def strip (text : String) : String :=
  String.ofList (trim isBlank text.toList)

/-- Whether a text holds nothing but white space. -/
def isBlankText (text : String) : Bool :=
  text.toList.all isBlank

end LineEditor.Text

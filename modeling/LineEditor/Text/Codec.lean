/-!
# Character codes

The three codes in which the editor's own files are kept.  `encode?` is defined
on the texts whose characters the code has, `decode?` on the byte sequences that
are written forms, and the two are inverse to each other.

There are many codes besides.  What is known of any of them is the two partial
functions, a `Coding`; `Coding.ofName?` finds the own codes first and looks up
every other name among those that it is given.

`decodeLossy` reads any bytes as UTF-8: each longest sequence that starts like a
character and does not go on like one becomes a replacement character.
-/

set_option autoImplicit false

namespace LineEditor.Text

/-- A character code. -/
inductive Codec where
  | utf8
  | latin1
  | ascii
  deriving DecidableEq

namespace Codec

/-- A name of a code in the spelling that the table of names uses: lower case, and every run of
other characters than letters, digits and points as one underscore. -/
def normaliseName (gap : Bool) (started : Bool) : List Char → List Char
  | [] => []
  | char :: rest =>
    if char.isAlphanum || char == '.' then
      (if gap && started then ['_', char.toLower] else [char.toLower])
        ++ normaliseName false true rest
    else normaliseName true started rest

/-- The code of a given name, if there is one.  No name holds the null character. -/
def ofName? (name : String) : Option Codec :=
  let spelling := String.ofList (normaliseName false false name.toList)
  if name.toList.contains '\x00' then none
  else if ["utf_8", "utf8", "u8", "utf", "cp65001", "utf8_ucs2", "utf8_ucs4"].contains spelling then
    some .utf8
  else if ["latin_1", "latin1", "latin", "l1", "iso_8859_1", "iso8859_1", "iso8859", "8859",
      "cp819", "ibm819", "iso_ir_100", "csisolatin1", "iso_8859_1_1987"].contains spelling then
    some .latin1
  else if ["ascii", "us_ascii", "us", "646", "cp367", "ibm367", "csascii", "iso_ir_6", "iso646_us",
      "iso_646.irv_1991", "ansi_x3.4_1968", "ansi_x3_4_1968", "ansi_x3.4_1986"].contains spelling then
    some .ascii
  else
    none

/-- The number of code points of a one-byte code. -/
def size : Codec → Nat
  | .utf8 => 0x110000
  | .latin1 => 256
  | .ascii => 128

/-- The bytes of a text, if the code has all its characters. -/
def encode? (codec : Codec) (text : String) : Option ByteArray :=
  match codec with
  | .utf8 => some text.toUTF8
  | _ =>
    if text.toList.all (·.toNat < codec.size) then
      some ⟨(text.toList.map fun char => UInt8.ofNat char.toNat).toArray⟩
    else none

/-- The text that bytes write, if they write one. -/
def decode? (codec : Codec) (bytes : ByteArray) : Option String :=
  match codec with
  | .utf8 => String.fromUTF8? bytes
  | _ =>
    if bytes.data.toList.all (·.toNat < codec.size) then
      some (String.ofList (bytes.data.toList.map fun byte => Char.ofNat byte.toNat))
    else none

end Codec

/-- The ways from a text to bytes and back. -/
structure Coding where
  encode? : String → Option ByteArray
  decode? : ByteArray → Option String

/-- A code as a coding. -/
def Codec.coding (codec : Codec) : Coding where
  encode? := codec.encode?
  decode? := codec.decode?

/-- The coding of a given name, if there is one, where some other codes are known. -/
def Coding.ofName? (others : String → Option Coding) (name : String) : Option Coding :=
  match Codec.ofName? name with
  | some codec => some codec.coding
  | none => others name

/-! ## Reading damaged UTF-8 -/

/-- Whether a byte can go on a character: the second byte of some leading bytes is restricted, so
that no character has two forms. -/
def continues (lead : UInt8) (isSecond : Bool) (byte : UInt8) : Bool :=
  let low : UInt8 := if isSecond && lead == 0xE0 then 0xA0 else if isSecond && lead == 0xF0 then 0x90 else 0x80
  let high : UInt8 := if isSecond && lead == 0xED then 0x9F else if isSecond && lead == 0xF4 then 0x8F else 0xBF
  low ≤ byte && byte ≤ high

/-- The number of bytes that must follow a leading byte, if it is one. -/
def followers? (lead : UInt8) : Option Nat :=
  if lead < 0x80 then some 0
  else if 0xC2 ≤ lead && lead ≤ 0xDF then some 1
  else if 0xE0 ≤ lead && lead ≤ 0xEF then some 2
  else if 0xF0 ≤ lead && lead ≤ 0xF4 then some 3
  else none

/-- Reads the bytes after a leading byte: how many were used, and the code point unless the
sequence breaks off. -/
def readFollowers (lead : UInt8) (isSecond : Bool) (value : Nat) : Nat → List UInt8 → Nat × Option Nat
  | 0, _ => (0, some value)
  | _ + 1, [] => (0, none)
  | missing + 1, byte :: rest =>
    if continues lead isSecond byte then
      let (used, point) := readFollowers lead false (64 * value + byte.toNat % 64) missing rest
      (used + 1, point)
    else (0, none)

/-- The first character of a byte sequence and the number of bytes used after the first. -/
def readSequence (lead : UInt8) (rest : List UInt8) : Nat × Char :=
  match followers? lead with
  | none => (0, '\uFFFD')
  | some count =>
    let bits := match count with
      | 0 => lead.toNat
      | 1 => lead.toNat % 32
      | 2 => lead.toNat % 16
      | _ => lead.toNat % 8
    let (used, point) := readFollowers lead true bits count rest
    (used, (point.map Char.ofNat).getD '\uFFFD')

/-- The characters of a byte sequence after skipping some bytes. -/
def lossyChars (skip : Nat) : List UInt8 → List Char
  | [] => []
  | byte :: rest =>
    match skip with
    | left + 1 => lossyChars left rest
    | 0 =>
      let (used, char) := readSequence byte rest
      char :: lossyChars used rest

/-- Bytes as UTF-8, with replacement characters where they are damaged. -/
def decodeLossy (bytes : ByteArray) : String :=
  String.ofList (lossyChars 0 bytes.data.toList)

end LineEditor.Text

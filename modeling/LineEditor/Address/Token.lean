import LineEditor.CommandLine
import LineEditor.Text.Digit

/-!
# Address tokens

An address token is a base and offsets.  The base is the current line, the last
line, a number, a mark or a search; the offsets are signed amounts that follow
it, where a missing amount counts as one.

`Address.split` cuts a token into the texts of its base and of its offsets,
`Base.ofText` says which base a text is, and `readOffsets?` reads the offsets.
-/

set_option autoImplicit false

namespace LineEditor.Address

open LineEditor.Text

/-- Splits characters behind the first occurrence of a character; without one, everything is in
the first part. -/
def splitAfter (close : Char) : List Char → List Char × List Char
  | [] => ([], [])
  | char :: rest =>
    if char = close then ([char], rest)
    else
      let (before, after) := splitAfter close rest
      (char :: before, after)

/-- Splits the characters of a token into its base and its offsets. -/
def splitChars : List Char → List Char × List Char
  | [] => ([], [])
  | char :: rest =>
    if char = '/' ∨ char = '?' then
      let (body, offsets) := splitAfter char rest
      (char :: body, offsets)
    else if char = '\'' then (char :: rest.take 1, rest.drop 1)
    else if char = '.' ∨ char = '$' then ([char], rest)
    else ((char :: rest).takeWhile isDigit, (char :: rest).dropWhile isDigit)

/-- Splits a token into its base and its offsets. -/
def split (token : String) : String × String :=
  let (base, offsets) := splitChars token.toList
  (String.ofList base, String.ofList offsets)

/-- What an address starts from. -/
inductive Base where
  | current
  | last
  | number (digits : List Char)
  | mark (name : List Char)
  | search (isForward : Bool) (body : List Char)
  deriving DecidableEq

/-- The body of a search without the character that closes it. -/
def searchBody (delimiter : Char) (body : List Char) : List Char :=
  if body.getLast? = some delimiter then body.dropLast else body

/-- The base that the characters of a split token write. -/
def Base.ofChars : List Char → Base
  | [] => .current
  | char :: rest =>
    if char = '/' ∨ char = '?' then .search (char = '/') (searchBody char rest)
    else if char = '$' then .last
    else if char = '\'' then .mark rest
    else if char = '.' ∧ rest = [] then .current
    else .number (char :: rest)

/-- A signed amount; without digits it is one. -/
structure Offset where
  isNegative : Bool
  digits : List Char
  deriving DecidableEq

/-- Reads offsets from the right: the digits still without a sign, and the offsets after them. -/
def readOffsetsFrom : List Char → Option (List Char × List Offset)
  | [] => some ([], [])
  | char :: rest =>
    match readOffsetsFrom rest with
    | none => none
    | some (digits, offsets) =>
      if isDigit char then some (char :: digits, offsets)
      else if isSign char then some ([], ⟨char != '+', digits⟩ :: offsets)
      else none

/-- The offsets that a text writes: signs, each followed by digits or none. -/
def readOffsets? (chars : List Char) : Option (List Offset) :=
  match readOffsetsFrom chars with
  | some ([], offsets) => some offsets
  | _ => none

end LineEditor.Address

import LineEditor.Pattern.Matcher
import LineEditor.Pattern.Reader

/-!
# Replacement templates

A replacement is written in the editor's own notation, in which `&` stands for
the matched text, a backslash before a digit for a group, and a backslash before
any other character for that character.  `expandReplacement` turns it into a
template, the notation that the substitution proper reads, and `Template.read`
reads a template into its pieces: literal texts and group numbers.

The template notation has escapes of its own.  Up to three octal digits after a
backslash may write a character, and otherwise one or two digits are the number
of a group.
-/

set_option autoImplicit false

namespace LineEditor.Pattern

open LineEditor.Text

/-- A piece of a template. -/
inductive Piece where
  | literal (chars : List Char)
  | group (index : Nat)
  deriving DecidableEq

/-- A template: its pieces in order. -/
abbrev Template := List Piece

/-- The template notation of the characters of a replacement. -/
def expandChars : List Char → List Char
  | [] => []
  | ['\\'] => []
  | '&' :: rest => "\\g<0>".toList ++ expandChars rest
  | '\\' :: char :: rest =>
    (if isDigitLike char then ['\\', char]
    else if char = '\\' then ['\\', '\\']
    else [char]) ++ expandChars rest
  | char :: rest => char :: expandChars rest

/-- The template of a replacement. -/
def expandReplacement (replacement : String) : String :=
  String.ofList (expandChars replacement.toList)

namespace Template

/-- A group number, which must not exceed the number of groups. -/
def groupPiece (groupCount index : Nat) : Except PatternFault Piece :=
  if index > groupCount then .error .malformed else .ok (.group index)

/-- The group that a name or a number between angle brackets refers to. -/
def namedPiece (compiled : Compiled) (name : String) : Except PatternFault Piece :=
  if isIdentifier name then
    match compiled.names.lookup name with
    | some index => .ok (.group index)
    | none => .error .malformed
  else
    match readInteger name with
    | .ok index =>
      if index < 0 then .error .malformed else groupPiece compiled.groupCount index.toNat
    | .error _ => .error .malformed

/-- The character with a code below 256. -/
def bytePiece (value : Nat) : Piece :=
  .literal [Char.ofNat (value % 256)]

/-- Reads a digit after a backslash, and the digits that belong to it. -/
def readDigits (compiled : Compiled) (first : Char) (tokens : List Token) :
    Except PatternFault (Piece × List Token) := do
  if first == '0' then
    let (digits, rest) ← Token.takeWhile isOctal 2 tokens
    return (bytePiece (numberIn 8 digits), rest)
  let (second, rest) ← Token.takeWhile Char.isDigit 1 tokens
  let (third, afterThird) ←
    if isOctal first && second.all isOctal && !second.isEmpty then Token.takeWhile isOctal 1 rest
    else pure ([], rest)
  if third.isEmpty then
    return (← groupPiece compiled.groupCount (numberIn 10 (first :: second)), rest)
  let value := numberIn 8 (first :: second ++ third)
  if value > 0o377 then throw .malformed
  return (bytePiece value, afterThird)

/-- Reads the piece that a token starts, given the tokens after it. -/
def readPiece (compiled : Compiled) (token : Token) (rest : List Token) :
    Except PatternFault (Piece × List Token) := do
  match token with
  | .plain char => return (.literal [char], rest)
  | .dangling => throw .malformed
  | .escaped char =>
    if char == 'g' then
      match ← Token.dropIf '<' rest with
      | none => throw .malformed
      | some after =>
        let (name, after) ← Token.takeName '>' after
        return (← namedPiece compiled name, after)
    else if char.isDigit then readDigits compiled char rest
    else match namedControl? char with
      | some point => return (.literal [Char.ofNat point], rest)
      | none => if char.isAlpha then throw .malformed else return (.literal ['\\', char], rest)

/-- Reads all pieces; the bound is the number of tokens. -/
def readPieces (compiled : Compiled) : Nat → List Token → Except PatternFault Template
  | 0, _ => .ok []
  | _ + 1, [] => .ok []
  | bound + 1, token :: rest => do
    Token.check rest
    let (piece, after) ← readPiece compiled token rest
    return piece :: (← readPieces compiled bound after)

/-- The pieces of a template for a given pattern. -/
def read (compiled : Compiled) (template : String) : Except PatternFault Template := do
  let tokens := Token.ofChars template.toList
  Token.check tokens
  readPieces compiled tokens.length tokens

/-- The text of a piece for a match; a group that took no part is empty. -/
def pieceText (found : Match) : Piece → List Char
  | .literal chars => chars
  | .group 0 => found.start.textTo found.finish
  | .group index => (found.captures.lookup index).getD []

/-- The text that a template stands for, given a match. -/
def fill (template : Template) (found : Match) : List Char :=
  template.flatMap (pieceText found)

end Template

end LineEditor.Pattern

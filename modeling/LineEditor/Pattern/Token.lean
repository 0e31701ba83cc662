/-!
# Tokens of patterns and templates

Pattern texts and replacement templates are read token by token, where a
backslash and the character after it are one token.  A backslash at the end has
no such character; the text is then refused as soon as a reader gets to the
token before it (`Token.check`), whatever else is wrong further on.
-/

set_option autoImplicit false

namespace LineEditor.Pattern

/-- Why a text is no pattern. -/
inductive PatternFault where
  | malformed
  | repeatTooLarge
  | tooManyDigits (count : Nat)
  | incompatibleFlags
  | nestedTooDeep
  deriving DecidableEq

/-- A token: a character, a backslash with the next character, or a backslash at the end. -/
inductive Token where
  | plain (char : Char)
  | escaped (char : Char)
  | dangling
  deriving DecidableEq

namespace Token

/-- The tokens of a text. -/
def ofChars : List Char → List Token
  | [] => []
  | ['\\'] => [.dangling]
  | '\\' :: char :: rest => .escaped char :: ofChars rest
  | char :: rest => .plain char :: ofChars rest

/-- The characters of a token. -/
def chars : Token → List Char
  | .plain char => [char]
  | .escaped char => ['\\', char]
  | .dangling => ['\\']

/-- Refuses a list of tokens that is only a dangling backslash. -/
def check (tokens : List Token) : Except PatternFault Unit :=
  match tokens with
  | [.dangling] => .error .malformed
  | _ => .ok ()

/-- The first token as a character that satisfies a condition. -/
def head? (accept : Char → Bool) (tokens : List Token) : Option Char :=
  match tokens with
  | .plain char :: _ => if accept char then some char else none
  | _ => none

/-- Drops the first token if it is the given character. -/
def dropIf (char : Char) (tokens : List Token) : Except PatternFault (Option (List Token)) :=
  match tokens with
  | .plain first :: rest =>
    if first = char then (check rest).map fun _ => some rest else .ok none
  | _ => .ok none

/-- Takes at most `count` characters that satisfy a condition. -/
def takeWhile (accept : Char → Bool) (count : Nat) (tokens : List Token) :
    Except PatternFault (List Char × List Token) :=
  match count, tokens with
  | left + 1, .plain char :: rest =>
    if accept char then do
      check rest
      let (taken, after) ← takeWhile accept left rest
      return (char :: taken, after)
    else .ok ([], tokens)
  | _, _ => .ok ([], tokens)

/-- Takes the characters up to a closing one, which is dropped; there must be some. -/
def takeUntil (close : Char) : List Token → Except PatternFault (List Char × List Token)
  | [] => .error .malformed
  | token :: rest => do
    check rest
    if token = .plain close then return ([], rest)
    let (taken, after) ← takeUntil close rest
    return (token.chars ++ taken, after)

/-- A name between the current place and a closing character. -/
def takeName (close : Char) (tokens : List Token) : Except PatternFault (String × List Token) := do
  let (name, rest) ← takeUntil close tokens
  if name.isEmpty then throw .malformed
  return (String.ofList name, rest)

end Token

/-- Whether a character is an octal digit. -/
def isOctal (char : Char) : Bool :=
  '0' ≤ char && char ≤ '7'

/-- The number written by digits in a base up to sixteen. -/
def numberIn (base : Nat) (digits : List Char) : Nat :=
  digits.foldl (fun value digit =>
    base * value + (if digit.isDigit then digit.toNat - 48 else digit.toLower.toNat - 87)) 0

/-- Whether a character is a hexadecimal digit. -/
def isHexadecimal (char : Char) : Bool :=
  char.isDigit || ('a' ≤ char && char ≤ 'f') || ('A' ≤ char && char ≤ 'F')

/-- The control characters that have a letter of their own after a backslash. -/
def namedControl? : Char → Option Nat
  | 'a' => some 7
  | 'b' => some 8
  | 'f' => some 12
  | 'n' => some 10
  | 'r' => some 13
  | 't' => some 9
  | 'v' => some 11
  | '\\' => some 92
  | _ => none

end LineEditor.Pattern

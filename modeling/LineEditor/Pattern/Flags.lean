import LineEditor.Pattern.Token

/-!
# Flags

A pattern may start with flags in parentheses, such as `(?i)`, that hold for all
of it, and it may limit flags to a group, as in `(?i:...)` or `(?-i:...)`.
-/

set_option autoImplicit false

namespace LineEditor.Pattern

/-- The settings under which a part of a pattern is read. -/
structure Flags where
  ignoreCase : Bool := false
  multiline : Bool := false
  dotAll : Bool := false
  verbose : Bool := false
  ascii : Bool := false
  unicode : Bool := false
  template : Bool := false
  deriving DecidableEq

namespace Flags

/-- Whether a letter names a flag. -/
def isLetter (char : Char) : Bool :=
  "iLmsxatu".toList.contains char

/-- Whether a letter chooses the set of characters that categories mean. -/
def choosesSet (char : Char) : Bool :=
  "aLu".toList.contains char

/-- Sets or clears the flag of a letter. -/
def set (flags : Flags) (value : Bool) : Char → Flags
  | 'i' => { flags with ignoreCase := value }
  | 'm' => { flags with multiline := value }
  | 's' => { flags with dotAll := value }
  | 'x' => { flags with verbose := value }
  | 'a' => { flags with ascii := value }
  | 'u' => { flags with unicode := value }
  | 't' => { flags with template := value }
  | _ => flags

/-- The flags inside a group that adds and removes some. -/
def combine (flags : Flags) (added removed : List Char) : Flags :=
  let base :=
    if added.any choosesSet then { flags with ascii := false, unicode := false } else flags
  removed.foldl (·.set false ·) (added.foldl (·.set true ·) base)

end Flags

/-- What stands in parentheses after a question mark: flags for the whole pattern, or flags for
a group. -/
inductive FlagGroup where
  | whole (added : List Char)
  | scoped (added removed : List Char)

/-- Reads the letters to add, of which `added` have been read; gives the character that ends
them.  Only one letter may choose the set of characters. -/
def readAdded (added : List Char) (char : Char) :
    List Token → Except PatternFault (List Char × Char × List Token)
  | [] => .error .malformed
  | token :: rest => do
    if char == 'L' then throw .malformed
    let added := added ++ [char]
    if Flags.choosesSet char && added.any fun other => Flags.choosesSet other && other != char then
      throw .malformed
    Token.check rest
    match token with
    | .plain next =>
      if next == ')' || next == '-' || next == ':' then return (added, next, rest)
      else if Flags.isLetter next then readAdded added next rest
      else throw .malformed
    | _ => throw .malformed

/-- Reads the letters to remove up to the colon. -/
def readRemoved (removed : List Char) (char : Char) :
    List Token → Except PatternFault (List Char × List Token)
  | [] => .error .malformed
  | token :: rest => do
    if Flags.choosesSet char then throw .malformed
    let removed := removed ++ [char]
    Token.check rest
    match token with
    | .plain next =>
      if next == ':' then return (removed, rest)
      else if Flags.isLetter next then readRemoved removed next rest
      else throw .malformed
    | _ => throw .malformed

/-- Reads a group of flags whose first character, a flag letter or a minus, has been read. -/
def readFlags (first : Char) (tokens : List Token) :
    Except PatternFault (FlagGroup × List Token) := do
  let (added, ending, rest) ←
    if first == '-' then pure ([], '-', tokens) else readAdded [] first tokens
  if ending == ')' then return (.whole added, rest)
  if added.contains 't' then throw .malformed
  if ending == ':' then return (.scoped added [], rest)
  match rest with
  | .plain char :: after =>
    Token.check after
    if !Flags.isLetter char then throw .malformed
    let (removed, after) ← readRemoved [] char after
    if removed.contains 't' || added.any removed.contains then throw .malformed
    return (.scoped added removed, after)
  | _ => throw .malformed

end LineEditor.Pattern

/-!
# Words and operators of shell commands

The text of a shell command is cut into words and operators.  A word is made of
parts: characters, which may be quoted, parameters, and commands whose output
stands in their place.

Cutting goes through the characters once; the bound on its rounds is their
number.
-/

set_option autoImplicit false

namespace LineEditor.Shell

/-- A part of a word.  A quoted part is not split into fields and not matched against file names;
`emptyQuotes` makes a word of nothing but quotes exist. -/
inductive WordPart where
  | char (char : Char) (quoted : Bool)
  | parameter (name : String) (quoted : Bool)
  | output (source : String) (quoted : Bool)
  | emptyQuotes
  deriving DecidableEq

/-- A word: its parts in order. -/
abbrev Word := List WordPart

/-- A word, or an operator; digits right before a redirection are part of it. -/
inductive Token where
  | word (word : Word)
  | operator (text : String)
  | redirection (descriptor? : Option Nat) (text : String)
  deriving DecidableEq

/-- Why a command cannot be run at all. -/
inductive SyntaxFault where
  | unterminatedQuote
  | unterminatedSubstitution
  | unexpected (what : String)
  deriving DecidableEq

/-- The words for a command that cannot be run. -/
def SyntaxFault.message : SyntaxFault → String
  | .unterminatedQuote => "Syntax error: Unterminated quoted string"
  | .unterminatedSubstitution => "Syntax error: EOF in backquote substitution"
  | .unexpected what => "Syntax error: " ++ what ++ " unexpected"

/-- The operators, each before those it starts with. -/
def operators : List String :=
  [";;", "&&", "||", ";", "&", "|", "(", ")", "\n"]

/-- The redirections, each before those it starts with. -/
def redirections : List String :=
  [">>", ">&", ">|", "<&", "<>", ">", "<"]

/-- Whether a character ends a word. -/
def endsWord (char : Char) : Bool :=
  " \t\n;&|()<>".toList.contains char

/-- Whether a character may start the name of a variable. -/
def isNameStart (char : Char) : Bool :=
  char.isAlpha || char == '_'

/-- Whether a character may stand in the name of a variable. -/
def isNamePart (char : Char) : Bool :=
  char.isAlphanum || char == '_'

/-- The characters up to the parenthesis that closes a substitution, and those behind it. -/
def takeSubstitution (depth : Nat) : List Char → Option (List Char × List Char)
  | [] => none
  | ')' :: rest =>
    match depth with
    | 0 => some ([], rest)
    | outer + 1 => (takeSubstitution outer rest).map fun (taken, after) => (')' :: taken, after)
  | '(' :: rest => (takeSubstitution (depth + 1) rest).map fun (taken, after) => ('(' :: taken, after)
  | char :: rest => (takeSubstitution depth rest).map fun (taken, after) => (char :: taken, after)

/-- The characters up to a backquote, with escapes of the characters that have a meaning there
taken off, and those behind it. -/
def takeBackquoted : List Char → Option (List Char × List Char)
  | [] => none
  | '`' :: rest => some ([], rest)
  | '\\' :: char :: rest =>
    (takeBackquoted rest).map fun (taken, after) =>
      (if char == '`' || char == '\\' || char == '$' then char :: taken else '\\' :: char :: taken, after)
  | char :: rest => (takeBackquoted rest).map fun (taken, after) => (char :: taken, after)

/-- The part that a dollar sign starts, and the characters behind it. -/
def takeDollar (quoted : Bool) (rest : List Char) :
    Except SyntaxFault (WordPart × List Char) :=
  match rest with
  | '(' :: body =>
    match takeSubstitution 0 body with
    | some (source, after) => .ok (.output (String.ofList source) quoted, after)
    | none => .error (.unexpected "end of file")
  | '\x7b' :: body =>
    .ok (.parameter (String.ofList (body.takeWhile (· != '\x7d'))) quoted,
      (body.dropWhile (· != '\x7d')).tail)
  | char :: after =>
    if isNameStart char then
      .ok (.parameter (String.ofList (rest.takeWhile isNamePart)) quoted, rest.dropWhile isNamePart)
    else if char.isDigit || "?$!#@*-".toList.contains char then
      .ok (.parameter char.toString quoted, after)
    else .ok (.char '$' quoted, rest)
  | [] => .ok (.char '$' quoted, rest)

/-- Reads the rest of a word, of a single-quoted part (`mark?` is a single quote) or of a
double-quoted part. -/
def readWord : Nat → Option Char → List Char → Except SyntaxFault (Word × List Char)
  | 0, _, chars => .ok ([], chars)
  | _ + 1, some _, [] => .error .unterminatedQuote
  | _ + 1, none, [] => .ok ([], [])
  | bound + 1, some '\'', char :: rest => do
    if char = '\'' then readWord bound none rest
    else
      let (parts, after) ← readWord bound (some '\'') rest
      return (.char char true :: parts, after)
  | bound + 1, some mark, char :: rest => do
    if char = '"' then readWord bound none rest
    else if char = '\\' then
      match rest with
      | next :: after =>
        if next = '\n' then readWord bound (some mark) after
        else
          let escaped := "$`\"\\".toList.contains next
          let (parts, after) ← readWord bound (some mark) (if escaped then after else rest)
          return (.char (if escaped then next else '\\') true :: parts, after)
      | [] => throw .unterminatedQuote
    else if char = '$' then
      let (part, after) ← takeDollar true rest
      let (parts, after) ← readWord bound (some mark) after
      return (part :: parts, after)
    else if char = '`' then
      match takeBackquoted rest with
      | none => throw .unterminatedSubstitution
      | some (source, after) =>
        let (parts, after) ← readWord bound (some mark) after
        return (.output (String.ofList source) true :: parts, after)
    else
      let (parts, after) ← readWord bound (some mark) rest
      return (.char char true :: parts, after)
  | bound + 1, none, char :: rest => do
    if endsWord char then return ([], char :: rest)
    else if char = '\'' ∨ char = '"' then
      let (parts, after) ← readWord bound (some char) rest
      return (.emptyQuotes :: parts, after)
    else if char = '\\' then
      match rest with
      | [] => return ([.char '\\' true], [])
      | '\n' :: after => readWord bound none after
      | next :: after =>
        let (parts, after) ← readWord bound none after
        return (.char next true :: parts, after)
    else if char = '$' then
      let (part, after) ← takeDollar false rest
      let (parts, after) ← readWord bound none after
      return (part :: parts, after)
    else if char = '`' then
      match takeBackquoted rest with
      | none => throw .unterminatedSubstitution
      | some (source, after) =>
        let (parts, after) ← readWord bound none after
        return (.output (String.ofList source) false :: parts, after)
    else
      let (parts, after) ← readWord bound none rest
      return (.char char false :: parts, after)

/-- The characters behind the first of some texts that stands at the front, and that text. -/
def takeFirst? (texts : List String) (chars : List Char) : Option (String × List Char) :=
  texts.findSome? fun text =>
    if text.toList.isPrefixOf chars then some (text, chars.drop text.length) else none

/-- Cuts a command into words and operators. -/
def tokens : Nat → List Char → Except SyntaxFault (List Token)
  | 0, _ => .ok []
  | _ + 1, [] => .ok []
  | bound + 1, char :: rest => do
    if char = ' ' ∨ char = '\t' then tokens bound rest
    else if char = '#' then tokens bound (rest.dropWhile (· != '\n'))
    else
      let digits := (char :: rest).takeWhile Char.isDigit
      let afterDigits := (char :: rest).dropWhile Char.isDigit
      match takeFirst? redirections afterDigits with
      | some (text, after) =>
        let descriptor? := if digits.isEmpty then none else (String.ofList digits).toNat?
        return .redirection descriptor? text :: (← tokens bound after)
      | none =>
        match takeFirst? operators (char :: rest) with
        | some (text, after) => return .operator text :: (← tokens bound after)
        | none =>
          let (parts, after) ← readWord (rest.length + 2) none (char :: rest)
          return .word parts :: (← tokens bound after)

end LineEditor.Shell

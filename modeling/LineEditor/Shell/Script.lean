import LineEditor.Shell.Word

/-!
# Shell scripts

A shell command as a term: simple commands with words and redirections, pipes,
lists in which a command depends on the success of the one before it, and
groups.  `Script.read` reads the tokens of a command into such a term.
-/

set_option autoImplicit false

namespace LineEditor.Shell

/-- A redirection: the descriptor that is redirected, how, and to what. -/
structure Redirect where
  descriptor : Nat
  operator : String
  target : Word
  deriving DecidableEq

/-- A command. -/
inductive Script where
  | simple (words : List Word) (redirects : List Redirect)
  | pipe (left right : Script)
  | negated (body : Script)
  | both (first second : Script)
  | eitherOf (first second : Script)
  | sequence (first second : Script)
  | apart (body : Script) (redirects : List Redirect)
  | grouped (body : Script) (redirects : List Redirect)
  deriving DecidableEq

/-- A word of unquoted characters only. -/
def plainWord? (word : Word) : Option String :=
  (word.mapM fun part => match part with
    | WordPart.char char false => some char
    | _ => none).map String.ofList

/-- Whether the tokens start with an unquoted word. -/
def startsWith (text : String) : List Token → Bool
  | .word word :: _ => plainWord? word == some text
  | _ => false

/-- The fault of a token that cannot stand where it does. -/
def unexpected : List Token → SyntaxFault
  | [] => .unexpected "end of file"
  | .operator "\n" :: _ => .unexpected "newline"
  | .operator text :: _ | .redirection _ text :: _ => .unexpected ("\"" ++ text ++ "\"")
  | .word word :: _ =>
    match plainWord? word with
    | some "\x7d" => .unexpected "\"\x7d\""
    | _ => .unexpected "word"

/-- Drops ends of line. -/
def dropNewlines (tokens : List Token) : List Token :=
  tokens.dropWhile (· == .operator "\n")

/-- Reads a redirection, whose operator has been dropped. -/
def readRedirect (descriptor? : Option Nat) (operator : String) (tokens : List Token) :
    Except SyntaxFault (Redirect × List Token) :=
  match tokens with
  | .word target :: rest =>
    let default := if operator.startsWith "<" then 0 else 1
    .ok (⟨descriptor?.getD default, operator, target⟩, rest)
  | _ => .error (unexpected tokens)

/-- Reads the redirections behind a group. -/
def readRedirects : Nat → List Token → Except SyntaxFault (List Redirect × List Token)
  | bound + 1, .redirection descriptor? operator :: rest => do
    let (redirect, rest) ← readRedirect descriptor? operator rest
    let (redirects, rest) ← readRedirects bound rest
    return (redirect :: redirects, rest)
  | _, tokens => .ok ([], tokens)

/-- Reads the words and redirections of a simple command. -/
def readSimple : Nat → List Token → Except SyntaxFault (List Word × List Redirect × List Token)
  | bound + 1, .redirection descriptor? operator :: rest => do
    let (redirect, rest) ← readRedirect descriptor? operator rest
    let (words, redirects, rest) ← readSimple bound rest
    return (words, redirect :: redirects, rest)
  | bound + 1, .word word :: rest => do
    let (words, redirects, rest) ← readSimple bound rest
    return (word :: words, redirects, rest)
  | _, tokens => .ok ([], [], tokens)

mutual

/-- Reads a list of commands up to the end or to a token that closes a group. -/
def readList : Nat → List Token → Except SyntaxFault (Script × List Token)
  | 0, tokens => .error (unexpected tokens)
  | bound + 1, tokens => do
    let (first, rest) ← readChain bound tokens
    match rest with
    | .operator text :: after =>
      if text = ";" ∨ text = "&" ∨ text = "\n" then
        let after := dropNewlines after
        if after.isEmpty || after.head? == some (.operator ")") || startsWith "\x7d" after then
          return (first, after)
        let (second, rest) ← readList bound after
        return (.sequence first second, rest)
      else return (first, rest)
    | _ => return (first, rest)

/-- Reads pipelines joined by success or failure. -/
def readChain : Nat → List Token → Except SyntaxFault (Script × List Token)
  | 0, tokens => .error (unexpected tokens)
  | bound + 1, tokens => do
    let (first, rest) ← readPipeline bound tokens
    readChainAfter bound first rest

/-- Reads what is joined to a chain that has been read. -/
def readChainAfter : Nat → Script → List Token → Except SyntaxFault (Script × List Token)
  | 0, _, tokens => .error (unexpected tokens)
  | bound + 1, first, tokens => do
    match tokens with
    | .operator "&&" :: rest =>
      let (second, rest) ← readPipeline bound (dropNewlines rest)
      readChainAfter bound (.both first second) rest
    | .operator "||" :: rest =>
      let (second, rest) ← readPipeline bound (dropNewlines rest)
      readChainAfter bound (.eitherOf first second) rest
    | _ => return (first, tokens)

/-- Reads a pipeline, which may be negated. -/
def readPipeline : Nat → List Token → Except SyntaxFault (Script × List Token)
  | 0, tokens => .error (unexpected tokens)
  | bound + 1, tokens => do
    if startsWith "!" tokens then
      let (body, rest) ← readPipeline bound tokens.tail
      return (.negated body, rest)
    let (first, rest) ← readCommand bound tokens
    match rest with
    | .operator "|" :: after =>
      let (second, rest) ← readPipeline bound (dropNewlines after)
      return (.pipe first second, rest)
    | _ => return (first, rest)

/-- Reads a group or a simple command. -/
def readCommand : Nat → List Token → Except SyntaxFault (Script × List Token)
  | 0, tokens => .error (unexpected tokens)
  | bound + 1, tokens => do
    match tokens with
    | .operator "(" :: rest =>
      let (body, rest) ← readList bound (dropNewlines rest)
      match rest with
      | .operator ")" :: rest =>
        let (redirects, rest) ← readRedirects rest.length rest
        return (.apart body redirects, rest)
      | _ => throw (unexpected rest)
    | _ =>
      if startsWith "\x7b" tokens then
        let (body, rest) ← readList bound (dropNewlines tokens.tail)
        if startsWith "\x7d" rest then
          let (redirects, rest) ← readRedirects rest.length rest.tail
          return (.grouped body redirects, rest)
        throw (unexpected rest)
      if startsWith "\x7d" tokens then throw (unexpected tokens)
      let (words, redirects, rest) ← readSimple tokens.length tokens
      if words.isEmpty && redirects.isEmpty then throw (unexpected tokens)
      return (.simple words redirects, rest)

end

/-- The command that a text writes, or nothing if it is empty. -/
def Script.read (source : String) : Except SyntaxFault (Option Script) := do
  let tokens ← tokens (source.length + 1) source.toList
  let tokens := dropNewlines tokens
  if tokens.isEmpty then return none
  let (script, rest) ← readList (6 * tokens.length + 6) tokens
  if rest.isEmpty then return some script
  throw (unexpected rest)

end LineEditor.Shell

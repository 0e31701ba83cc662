import LineEditor.Text.Digit

/-!
# Options of the console

What the words of a command line ask for.  An option is a switch with one letter
or with a name that may be shortened as long as it stays clear.  Switches of one
letter can be written in one word, and a value can follow in the same word, with
or without an equals sign, or in the next one.  Two dashes end the options.

Words are first told apart (`Word.ofText?`) and then read from left to right
(`Parse.words`).  Asking for help wins over everything that comes after it.
-/

set_option autoImplicit false

namespace LineEditor.Console

/-- What the words of a command line ask for. -/
structure Options where
  file? : Option String := none
  prompt? : Option String := none
  verbose : Bool := false
  deriving DecidableEq

/-- The switches. -/
inductive Switch where
  | help
  | prompt
  | verbose
  deriving DecidableEq

namespace Switch

/-- All switches. -/
def all : List Switch := [.help, .prompt, .verbose]

/-- The letter of a switch. -/
def letter : Switch → Char
  | .help => 'h'
  | .prompt => 'p'
  | .verbose => 'v'

/-- The name of a switch. -/
def name : Switch → String
  | .help => "help"
  | .prompt => "prompt"
  | .verbose => "verbose"

/-- The switch with a letter. -/
def ofLetter? (char : Char) : Option Switch :=
  all.find? (·.letter == char)

/-- The switches whose names start in a given way; a full name means that switch alone. -/
def ofNameStart (start : List Char) : List Switch :=
  match all.find? (·.name.toList == start) with
  | some switch => [switch]
  | none => all.filter fun switch => start.isPrefixOf switch.name.toList

end Switch

/-- What is written in one word with a switch: how the switch is written, and its value. -/
inductive Attachment where
  | nothing
  | named (value : List Char)
  | signed (value : List Char)
  | glued (value : List Char)
  deriving DecidableEq

/-- A word of the command line. -/
inductive Word where
  | plain (text : String)
  | separator
  | option (switch : Switch) (attachment : Attachment)
  | unknown
  deriving DecidableEq

/-- A part of a word up to an equals sign, and what follows the sign. -/
def splitAtSign (chars : List Char) : List Char × Option (List Char) :=
  match chars.dropWhile (· != '=') with
  | [] => (chars, none)
  | _ :: value => (chars.takeWhile (· != '='), some value)

/-- Whether a word behind a dash writes a number. -/
def isNumber (chars : List Char) : Bool :=
  let unfed := if chars.getLast? = some '\n' then chars.dropLast else chars
  match unfed.dropWhile Text.isDigit with
  | [] => !unfed.isEmpty
  | '.' :: places => !places.isEmpty && places.all Text.isDigit
  | _ => false

namespace Word

/-- A word that starts with a dash and is no option; it may still be meant as plain. -/
def ofOther (text : String) : Word :=
  let chars := text.toList.drop 1
  if isNumber chars || chars.contains ' ' then .plain text else .unknown

/-- A word that starts with two dashes.  A name that is not clear makes no word. -/
def ofLong? (text : String) : Option Word :=
  let (start, value?) := splitAtSign (text.toList.drop 2)
  match Switch.ofNameStart start with
  | [] => some (ofOther text)
  | [switch] => some (.option switch ((value?.map Attachment.named).getD .nothing))
  | _ => none

/-- A word that starts with one dash and a letter. -/
def ofShort (text : String) (char : Char) (rest : List Char) : Word :=
  match Switch.ofLetter? char with
  | none => ofOther text
  | some switch =>
    .option switch <| match rest with
      | [] => .nothing
      | '=' :: value => .signed value
      | _ => .glued rest

/-- What a word in front of the separator is. -/
def ofText? (text : String) : Option Word :=
  match text.toList with
  | '-' :: '-' :: _ => ofLong? text
  | '-' :: char :: rest => some (ofShort text char rest)
  | _ => some (.plain text)

/-- What the words are.  Behind the separator all are plain. -/
def ofTexts? : List String → Option (List Word)
  | [] => some []
  | text :: rest =>
    if text = "--" then some (.separator :: rest.map .plain)
    else do
      let word ← ofText? text
      return word :: (← ofTexts? rest)

end Word

/-- What a switch has been told to do. -/
inductive Effect where
  | help
  | verbose
  | prompt (text : String)
  deriving DecidableEq

/-- What a word amounts to: effects, whether something was left over, and the words that follow. -/
structure Reading where
  effects : List Effect
  leftOver : Bool := false
  rest : List Word

namespace Reading

/-- The reading with an effect before the others. -/
def after (effect : Effect) (reading : Reading) : Reading :=
  { reading with effects := effect :: reading.effects }

/-- A switch without anything attached; a prompt takes the next word. -/
def alone (rest : List Word) : Switch → Option Reading
  | .help => some { effects := [.help], rest }
  | .verbose => some { effects := [.verbose], rest }
  | .prompt =>
    match rest with
    | .plain text :: others => some { effects := [.prompt text], rest := others }
    | _ => none

/-- A switch with a value; only a prompt has one. -/
def valued (rest : List Word) (switch : Switch) (value : List Char) : Option Reading :=
  match switch with
  | .prompt => some { effects := [.prompt (String.ofList value)], rest }
  | _ => none

/-- A flag and the letters behind it in the same word, each a switch of its own. -/
def letters (rest : List Word) (effect : Effect) : List Char → Option Reading
  | [] => none
  | char :: others =>
    if char = '-' then none
    else match Switch.ofLetter? char with
      | none => some { effects := [effect], leftOver := true, rest }
      | some switch =>
        (match switch, others with
          | _, [] => alone rest switch
          | _, '=' :: value => valued rest switch value
          | .prompt, value => valued rest .prompt value
          | .help, value => letters rest .help value
          | .verbose, value => letters rest .verbose value).map (after effect)

/-- A switch with what is attached to it. -/
def ofSwitch (rest : List Word) (switch : Switch) : Attachment → Option Reading
  | .nothing => alone rest switch
  | .named value | .signed value => valued rest switch value
  | .glued value =>
    match switch with
    | .prompt => valued rest .prompt value
    | .help => letters rest .help value
    | .verbose => letters rest .verbose value

end Reading

/-- What comes of the words. -/
inductive Parse where
  | options (options : Options)
  | help
  | misuse
  deriving DecidableEq

/-- What has been read so far. -/
structure Progress where
  options : Options := {}
  hasFile : Bool := false
  leftOver : Bool := false

namespace Progress

/-- Applies effects up to the first that asks for help; nothing is left of the progress then. -/
def perform? (progress : Progress) : List Effect → Option Progress
  | [] => some progress
  | .help :: _ => none
  | .verbose :: rest =>
    { progress with options := { progress.options with verbose := true } }.perform? rest
  | .prompt text :: rest =>
    { progress with options := { progress.options with prompt? := some text } }.perform? rest

/-- Takes a word for the file. -/
def setFile (progress : Progress) (text : String) : Progress :=
  { progress with options := { progress.options with file? := some text }, hasFile := true }

end Progress

namespace Parse

/-- Reads words.  The separator belongs to the file: it may stand before it, directly after it, or
in its place.  The bound is the number of words. -/
def wordsFrom : Nat → Progress → List Word → Parse
  | _, progress, [] => if progress.leftOver then .misuse else .options progress.options
  | 0, _, _ => .misuse
  | bound + 1, progress, .plain text :: rest =>
    if progress.hasFile then wordsFrom bound { progress with leftOver := true } rest
    else wordsFrom bound (progress.setFile text) (match rest with
      | .separator :: others => others
      | _ => rest)
  | bound + 1, progress, .separator :: rest =>
    wordsFrom bound { progress with leftOver := progress.leftOver || progress.hasFile } rest
  | bound + 1, progress, .unknown :: rest =>
    wordsFrom bound { progress with leftOver := true } rest
  | bound + 1, progress, .option switch attachment :: rest =>
    match Reading.ofSwitch rest switch attachment with
    | none => .misuse
    | some reading =>
      match progress.perform? reading.effects with
      | none => .help
      | some applied =>
        let leftOver := applied.leftOver || reading.leftOver
        wordsFrom bound { applied with leftOver } reading.rest

/-- Reads the words of a command line. -/
def words (texts : List String) : Parse :=
  match Word.ofTexts? texts with
  | none => .misuse
  | some words => wordsFrom words.length {} words

end Parse

end LineEditor.Console

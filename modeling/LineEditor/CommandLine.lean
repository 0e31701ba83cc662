import LineEditor.Text.Blank

/-!
# Command lines

A command line is an address or two, a command letter and its arguments.  The
scanner cuts the text of a line into the two address tokens and the rest, and
leaves it to others to say what they mean.

It goes through the line character by character in three phases: the first
address, the second one, and the rest, which is taken over as it stands.  In the
address phases white space is skipped, a search runs up to the next occurrence
of the character that opened it, and a mark consists of a quote and one more
character.  `%` and `;` and a comma without an address before it are shorthands
for two addresses.

`ScanState.feed` is the scanner as one left-to-right pass, and `scan` gives its
result.
-/

set_option autoImplicit false

namespace LineEditor

open LineEditor.Text

/-- The parts of a command line. -/
structure CommandLine where
  first : String := ""
  second : String := ""
  rest : String := ""
  explicitRange : Bool := false
  deriving DecidableEq

namespace CommandLine

/-- The command letter. -/
def letter? (line : CommandLine) : Option Char :=
  line.rest.toList.head?

/-- What follows the command letter. -/
def args (line : CommandLine) : String :=
  String.ofList line.rest.toList.tail

/-- Whether an address was given. -/
def isAddressed (line : CommandLine) : Bool :=
  line.first != "" || line.second != ""

end CommandLine

/-- The part of a line that the scanner is in. -/
inductive Phase where
  | first
  | second
  | rest
  deriving DecidableEq

/-- The state of the scanner between two characters. -/
structure ScanState where
  phase : Phase := .first
  first : String := ""
  second : String := ""
  rest : String := ""
  delimiter? : Option Char := none
  inMark : Bool := false
  gap : Bool := false
  explicitRange : Bool := false
  deriving DecidableEq

/-- Whether a character may stand in an address outside of searches and marks. -/
def isAddressChar (char : Char) : Bool :=
  char.isDigit || char == '.' || char == '$' || char == '+' || char == '-' || char == '^'

/-- Whether a character is the sign of an offset. -/
def isSign (char : Char) : Bool :=
  char == '+' || char == '-' || char == '^'

namespace ScanState

/-- The address token being read. -/
def token (state : ScanState) : String :=
  if state.phase = .second then state.second else state.first

/-- Adds a character to the address token being read. -/
def pushToken (state : ScanState) (char : Char) : ScanState :=
  if state.phase = .second then { state with second := state.second.push char }
  else { state with first := state.first.push char }

/-- Adds a character to the rest. -/
def pushRest (state : ScanState) (char : Char) : ScanState :=
  { state with rest := state.rest.push char }

/-- Ends the addresses. -/
def leaveAddresses (state : ScanState) : ScanState :=
  { state with phase := .rest, delimiter? := none, inMark := false }

/-- Replaces the addresses by a shorthand's. -/
def setRange (state : ScanState) (first second : String) : ScanState :=
  { state with first, second, explicitRange := true }.leaveAddresses

/-- Starts the rest with a character. -/
def startRest (state : ScanState) (char : Char) : ScanState :=
  state.leaveAddresses.pushRest char

/-- A comma: it starts the second address, or it stands for the whole buffer. -/
def separate (state : ScanState) (char : Char) : ScanState :=
  if state.phase = .second then state.startRest char
  else if state.first.isEmpty then state.setRange "1" "$"
  else { state with phase := .second, explicitRange := true }

/-- A character of an address.  A digit after a gap in the token adds, unless a sign precedes. -/
def pushAddress (state : ScanState) (char : Char) : ScanState :=
  let needsSign := state.gap && char.isDigit &&
    state.token.toList.getLast?.any fun last => !isSign last
  (if needsSign then state.pushToken '+' else state).pushToken char

/-- A character that is neither white space nor part of a search or a mark. -/
def stepAddress (state : ScanState) (char : Char) : ScanState :=
  if char = '%' then state.setRange "1" "$"
  else if char = ';' then state.setRange "." "$"
  else if char = ',' then state.separate char
  else if char = '/' ∨ char = '?' then { state.pushToken char with delimiter? := some char }
  else if char = '\'' then { state.pushToken char with inMark := true }
  else if isAddressChar char then state.pushAddress char
  else state.startRest char

/-- Takes in one character. -/
def step (state : ScanState) (char : Char) : ScanState :=
  if state.phase = .rest then state.pushRest char
  else match state.delimiter? with
    | some delimiter =>
      let pushed := state.pushToken char
      if char = delimiter then { pushed with delimiter? := none } else pushed
    | none =>
      if state.inMark then { state.pushToken char with inMark := false }
      else if isBlank char then { state with gap := !state.token.isEmpty }
      else { state.stepAddress char with gap := false }

/-- Takes in a list of characters. -/
def feed (state : ScanState) (chars : List Char) : ScanState :=
  chars.foldl step state

/-- The states after each character of a list. -/
def trace (state : ScanState) : List Char → List ScanState
  | [] => []
  | char :: rest => state.step char :: (state.step char).trace rest

/-- Whether the first token is a search or a mark. -/
def isLoneTarget (state : ScanState) : Bool :=
  match state.first.toList.head? with
  | some char => char == '/' || char == '?' || char == '\''
  | none => false

/-- The parts of the line.  A search or a mark that stands alone addresses exactly one line, so it
becomes the second address too. -/
def finish (state : ScanState) : CommandLine :=
  { first := state.first
    second :=
      if state.second.isEmpty && state.rest.isEmpty && !state.explicitRange && state.isLoneTarget
      then state.first else state.second
    rest := state.rest
    explicitRange := state.explicitRange }

end ScanState

/-- The parts of a command line. -/
def CommandLine.scan (line : String) : CommandLine :=
  (ScanState.feed {} line.toList).finish

end LineEditor

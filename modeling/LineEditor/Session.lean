import LineEditor.Address.Resolution
import LineEditor.Config

/-!
# Sessions

What outlives a single command line beside the buffer: whether commands or text
are awaited, the last error, the remembered search and substitution, the marks,
and how far the user has got with quitting.

Marks hold the line numbers at which they were set; no edit shifts them.
-/

set_option autoImplicit false

namespace LineEditor

/-- What the next line is taken for. -/
inductive Mode where
  | command
  | text
  deriving DecidableEq

namespace Mode

/-- The name of a mode. -/
def name : Mode → String
  | .command => "command"
  | .text => "text"

/-- The mode with a name. -/
def ofName (name : String) : Except Fault Mode :=
  if name = "command" then .ok .command
  else if name = "text" then .ok .text
  else .error (.unknownMode name)

end Mode

/-- Whether a request to quit has been refused because of unsaved changes. -/
inductive QuitState where
  | clean
  | refusedOnce
  deriving DecidableEq

/-- A substitution: what to look for, what to put there, and whether everywhere in a line. -/
structure Substitution where
  pattern : String
  replacement : String
  all : Bool := false
  deriving DecidableEq

/-- What outlives a single line. -/
structure Session where
  mode : Mode := .command
  lastError : String := ""
  verboseErrors : Bool := false
  promptVisible : Bool := false
  lastSearch? : Option String := none
  lastSubstitution? : Option Substitution := none
  marks : Address.Marks := []
  quitState : QuitState := .clean
  insertAfter : Int := 0
  ended : Bool := false
  deriving DecidableEq

namespace Session

/-- The session that starts with the given settings. -/
def ofConfig (config : Config) : Session :=
  { verboseErrors := config.verboseErrors, promptVisible := config.promptVisible }

/-- The session with a mark set. -/
def setMark (session : Session) (name : Char) (line : Int) : Session :=
  { session with marks := (name, line) :: session.marks.filter (·.1 != name) }

/-- The lines that report an error. -/
def errorMarker (session : Session) (message : String) : List String :=
  if session.verboseErrors then ["?", message] else ["?"]

end Session

end LineEditor

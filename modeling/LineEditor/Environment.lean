import LineEditor.Text.Blank
import LineEditor.Text.Case

/-!
# Environment variables

The settings that the surroundings give, as a list of names and values.  The
names are those of the editor's own name space, without its leading part
`namePart`.  An empty value counts as none.
-/

set_option autoImplicit false

namespace LineEditor

/-- The values of variables. -/
abbrev Environment := List (String × String)

namespace Environment

/-- What the names of the editor's variables start with. -/
def namePart : String := "ED_ENGINE_"

/-- The names of all variables that mean something, without that part. -/
def names : List String :=
  ["PROMPT", "VERBOSE", "SHOW_PROMPT", "SHELL", "SHELL_TIMEOUT", "ENCODING", "LOG_LEVEL", "LOG_JSON",
    "LOG_FILE", "LOG_BUFFERED", "LOG_BUFFER_SIZE", "DISABLE_CONSOLE", "NO_COLOR"]

/-- The value of a variable, unless it is empty. -/
def value? (environment : Environment) (name : String) : Option String :=
  (environment.lookup name).filter (· != "")

/-- Whether a variable is set to a word that means yes. -/
def isSet (environment : Environment) (name : String) : Bool :=
  match environment.lookup name with
  | some value => ["1", "true", "yes", "on"].contains (Text.lowerPlainText (Text.strip value))
  | none => false

end Environment

end LineEditor

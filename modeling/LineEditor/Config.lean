import LineEditor.Decimal.Reading
import LineEditor.Environment
import LineEditor.Fault

/-!
# Settings of an editor

What a host can choose about an editor, and how the choice is read from
environment variables.
-/

set_option autoImplicit false

namespace LineEditor

/-- What a host can choose about an editor. -/
structure Config where
  prompt : String := "*"
  verboseErrors : Bool := false
  promptVisible : Bool := false
  shell? : Option String := none
  shellTimeout? : Option Decimal.Real64 := none
  encoding : String := "utf-8"
  deriving DecidableEq

namespace Config

/-- The settings that environment variables give. -/
def ofEnvironment (environment : Environment) : Except Fault Config := do
  let shellTimeout? ← match environment.value? "SHELL_TIMEOUT" with
    | none => pure none
    | some text => match Decimal.readReal? text with
      | some seconds => pure (some seconds)
      | none => throw (.notReal text)
  return {
    prompt := (environment.value? "PROMPT").getD "*"
    verboseErrors := environment.isSet "VERBOSE"
    promptVisible := environment.isSet "SHOW_PROMPT"
    shell? := environment.value? "SHELL"
    shellTimeout?
    encoding := (environment.value? "ENCODING").getD "utf-8" }

end Config

end LineEditor

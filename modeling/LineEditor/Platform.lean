import LineEditor.Pattern.Engine
import LineEditor.Shell.Execution

/-!
# What an editor stands on

An editor is given the shell that executes commands, the engine that reads
patterns, and the codes that are known besides its own.  Nothing about them is
the editor's, so whatever holds of an editor holds on every platform.
-/

set_option autoImplicit false

namespace LineEditor

/-- What an editor is given from the outside, with its disk. -/
structure Platform where
  shell : Shell := .standard
  engine : Pattern.Engine := .usual
  codecs : String → Option Text.Coding := fun _ => none

end LineEditor

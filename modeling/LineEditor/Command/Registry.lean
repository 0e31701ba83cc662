import LineEditor.Command.Spec
import LineEditor.Telemetry.Journal

/-!
# The command table

A registry binds letters to commands, in the order in which the letters were
first bound.  Binding a letter again is a conflict unless the new command is to
replace the old one, which then keeps its place.

`Registry.register` is a binding that the log is told about, and `Registry.own`
the table of the editor's own commands.
-/

set_option autoImplicit false

namespace LineEditor

/-- Commands in the order in which their letters were first bound. -/
structure Registry where
  specs : List CommandSpec := []
  deriving DecidableEq

namespace Registry

/-- The command bound to a letter. -/
def find? (registry : Registry) (letter : Char) : Option CommandSpec :=
  registry.specs.find? (·.letter == letter)

/-- The number of letters bound. -/
def size (registry : Registry) : Nat :=
  registry.specs.length

/-- Binds a command to its letter. -/
def insert (registry : Registry) (spec : CommandSpec) : Registry :=
  { specs :=
      if registry.specs.any (·.letter == spec.letter) then
        registry.specs.map fun other => if other.letter == spec.letter then spec else other
      else registry.specs ++ [spec] }

/-- Binds a command to its letter, unless the letter is bound and not to be replaced. -/
def add (registry : Registry) (spec : CommandSpec) (replace : Bool) : Except Fault Registry :=
  match registry.find? spec.letter with
  | some existing =>
    if replace then .ok (registry.insert spec)
    else .error (.commandConflict spec.letter existing.handler.description)
  | none => .ok (registry.insert spec)

/-- The letters, sorted. -/
def letters (registry : Registry) : List Char :=
  (registry.specs.map CommandSpec.letter).mergeSort

/-- The letters of the commands that change the buffer, sorted. -/
def mutatingLetters (registry : Registry) : List Char :=
  ((registry.specs.filter CommandSpec.mutates).map CommandSpec.letter).mergeSort

/-! ## Registration with the log -/

/-- The span in which a command is registered. -/
def registrationSpan (loggerName? : Option String) (spec : CommandSpec) :
    Telemetry.SpanRequest where
  name := "commands::register"
  loggerName?
  component? := some "commands"
  metadata := [("letter", spec.letter.toString), ("arity", spec.arity.name)]

/-- Binds a command to its letter and tells the log. -/
def register (registry : Registry) (spec : CommandSpec) (replace : Bool) :
    Telemetry.TelemetryM Registry :=
  Telemetry.withSpan (registrationSpan none spec) fun _ => do
    match registry.add spec replace with
    | .ok bound => return bound
    | .error fault =>
      Telemetry.addMetadata "conflict" spec.letter.toString
      throw fault

/-- Binds commands one after the other until one is refused: the table so far, and the fault. -/
def registerAll (registry : Registry) (replace : Bool) :
    List CommandSpec → StateM Telemetry.Store (Registry × Option Fault)
  | [] => return (registry, none)
  | spec :: rest => do
    match ← (registry.register spec replace).run with
    | .ok bound => bound.registerAll replace rest
    | .error fault => return (registry, some fault)

/-! ## The editor's own commands -/

/-- A command of the editor's own. -/
def ownCommand (letter : Char) (handler : Builtin) (arity : Arity) (mutates : Bool)
    (description : String) : CommandSpec where
  letter
  handler := .builtin handler
  arity
  mutates
  description
  telemetryName := CommandSpec.defaultTelemetryName letter

/-- The editor's own commands in the order of the table. -/
def ownCommands : List CommandSpec := [
  ownCommand '=' .lineNumber .line false "Print line number",
  ownCommand '!' .runShell .noAddress false "Run shell command",
  ownCommand 'a' .appendText .line true "Append text",
  ownCommand 'c' .changeLines .range true "Change lines",
  ownCommand 'd' .deleteLines .range true "Delete lines",
  ownCommand 'f' .showFileName .ignored false "Show file name",
  ownCommand 'h' .showError .ignored false "Explain last error",
  ownCommand 'H' .toggleVerbose .ignored false "Toggle verbose errors",
  ownCommand 'i' .insertText .line true "Insert text",
  ownCommand 'j' .joinLines .range true "Join lines",
  ownCommand 'k' .setMark .line false "Mark line",
  ownCommand 'l' .listLines .range false "List unambiguously",
  ownCommand 'm' .moveLines .range true "Move lines",
  ownCommand 'n' .numberLines .range false "Print numbered",
  ownCommand 'p' .printLines .range false "Print lines",
  ownCommand 'P' .togglePrompt .ignored false "Toggle prompt",
  ownCommand 'q' .quit .ignored false "Quit",
  ownCommand 'Q' .quitUnconditionally .ignored false "Quit without checks",
  ownCommand 'r' .readFile .oneAddress true "Read file",
  ownCommand 's' .substitute .range true "Substitute",
  ownCommand 't' .copyLines .range true "Copy lines",
  ownCommand 'u' .undo .ignored false "Undo last change",
  ownCommand 'w' .writeFile .ignored false "Write buffer",
  ownCommand '#' .comment .ignored false "Comment"]

/-- The table of the editor's own commands. -/
def own : Registry where
  specs := ownCommands

end Registry

end LineEditor

import LineEditor.Session

/-!
# Commands

A command is a letter with a handler and a contract: what it makes of the
addresses in front of it, and whether it changes the buffer.

Handlers are data.  `Builtin` names the editor's own handlers, and a `Script`
makes a handler of basic steps, for hosts that add commands of their own.
`CommandSpec.make` checks what is asked of a command.
-/

set_option autoImplicit false

namespace LineEditor

/-- What a command makes of the addresses in front of it: it rejects any, rejects a second one,
reads only the first, takes a missing second for the first, or checks them and reads none. -/
inductive Arity where
  | noAddress
  | oneAddress
  | line
  | range
  | ignored
  deriving DecidableEq

namespace Arity

/-- The name of an arity. -/
def name : Arity → String
  | .noAddress => "none"
  | .oneAddress => "single"
  | .line => "line"
  | .range => "range"
  | .ignored => "ignored"

/-- The arity with a name. -/
def ofName (name : String) : Except Fault Arity :=
  match [Arity.noAddress, .oneAddress, .line, .range, .ignored].find? (·.name == name) with
  | some arity => .ok arity
  | none => .error (.unknownArity name)

end Arity

/-- What a handler is given: the resolved lines and the arguments.  There is an end only where the
command has one. -/
structure Invocation where
  letter : Char
  args : String
  start : Nat
  finish? : Option Nat := none
  addressed : Bool := false
  deriving DecidableEq

/-- The last line that is meant. -/
def Invocation.stop (invocation : Invocation) : Nat :=
  invocation.finish?.getD invocation.start

/-- The outcome of a line: what to show, and which mode to go on in. -/
structure Reply where
  status : String := "ok"
  output : List String := []
  switchTo? : Option String := none
  message? : Option String := none
  ended : Bool := false
  deriving DecidableEq

/-- The editor's own handlers. -/
inductive Builtin where
  | lineNumber
  | runShell
  | appendText
  | changeLines
  | deleteLines
  | showFileName
  | showError
  | toggleVerbose
  | insertText
  | joinLines
  | setMark
  | listLines
  | moveLines
  | numberLines
  | printLines
  | togglePrompt
  | quit
  | quitUnconditionally
  | readFile
  | substitute
  | copyLines
  | undo
  | writeFile
  | comment
  deriving DecidableEq

/-- The name under which a conflict reports a handler. -/
def Builtin.name : Builtin → String
  | .lineNumber => "line_number"
  | .runShell => "run_shell"
  | .appendText => "append_text"
  | .changeLines => "change_lines"
  | .deleteLines => "delete_lines"
  | .showFileName => "show_filename"
  | .showError => "show_error"
  | .toggleVerbose => "toggle_verbose"
  | .insertText => "insert_text"
  | .joinLines => "join_lines"
  | .setMark => "set_mark"
  | .listLines => "list_lines"
  | .moveLines => "move_lines"
  | .numberLines => "number_lines"
  | .printLines => "print_lines"
  | .togglePrompt => "toggle_prompt"
  | .quit => "quit_session"
  | .quitUnconditionally => "quit_unconditionally"
  | .readFile => "read_file"
  | .substitute => "substitute"
  | .copyLines => "transfer_lines"
  | .undo => "undo"
  | .writeFile => "write_file"
  | .comment => "comment"

/-- A basic step of a scripted handler.  It deletes the lines that are meant, or any others. -/
inductive ScriptStep where
  | delete
  | deleteRange (start finish : Int)
  | insert (after : Int) (lines : List String)
  | setCurrent (line : Int)
  | setSearch (text? : Option String)
  | fail (fault : Fault)
  | echo
  | reply (reply : Reply)
  | noReply
  deriving DecidableEq

/-- What a command does. -/
inductive Handler where
  | builtin (builtin : Builtin)
  | scripted (name : String) (steps : List ScriptStep)
  deriving DecidableEq

/-- How a conflict reports a handler. -/
def Handler.description : Handler → String
  | .builtin handler => "<function " ++ handler.name ++ ">"
  | .scripted name _ => "<handler " ++ name ++ ">"

/-- A command: its letter, its handler and its contract. -/
structure CommandSpec where
  letter : Char
  handler : Handler
  arity : Arity := .range
  mutates : Bool := false
  description : String := ""
  telemetryName : String
  deriving DecidableEq

namespace CommandSpec

/-- The name under which a command is profiled if it has no other. -/
def defaultTelemetryName (letter : Char) : String :=
  "command." ++ letter.toString

/-- Checks what is asked of a command: a single letter, and a handler that can be called. -/
def make (letter : String) (handler? : Option Handler) (arity : Arity) (mutates : Bool)
    (description : String) (telemetryName? : Option String) : Except Fault CommandSpec :=
  match letter.toList, handler? with
  | [char], some handler =>
    .ok { letter := char, handler, arity, mutates, description
          telemetryName := telemetryName?.getD (defaultTelemetryName char) }
  | [_], none => .error .handlerNotCallable
  | _, _ => .error .letterNotSingle

/-- The name under which a command is profiled. -/
def spanName (spec : CommandSpec) : String :=
  if spec.telemetryName = "" then defaultTelemetryName spec.letter else spec.telemetryName

end CommandSpec

end LineEditor

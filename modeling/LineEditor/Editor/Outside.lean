import LineEditor.Editor.Basic

/-!
# Files and the shell

The commands that reach outside of the buffer.  Whatever the disk or a codec has
against a file is a refusal.  A path, a command or the name of a code that holds
the forbidden character is a fault of its own, and so is what the shell has
against a command or a time limit; and what is outside may never come back.
-/

set_option autoImplicit false

namespace LineEditor.EditorM

/-- Whether a fault is about a file or about the encoding of its text. -/
def isFileFault : Fault → Bool
  | .path _ _ | .unknownCodec _ | .undecodable | .unencodable => true
  | _ => false

/-- Does work whose faults about files are refusals. -/
def refusingFiles {α : Type} (cause : FileCause) (work : EditorM α) : EditorM α :=
  ExceptT.mk fun editor =>
    match work.runOn editor with
    | (.error fault, inner) =>
      (.error (if isFileFault fault then .refusal (.inputOutput cause) else fault), inner)
    | outcome => outcome

/-! ## The shell -/

/-- Has the shell execute a command, and gives the lines to show. -/
def executeCommand (command : String) : EditorM (List String) := do
  let editor ← get
  let (outcome, disk) := editor.platform.shell.execute editor.config editor.disk command
  set { editor with disk }
  (outcome : Except Fault (List String))

/-- Has the shell execute the arguments and shows what it wrote. -/
def runShell (invocation : Invocation) : EditorM Reply := do
  let command := Text.strip invocation.args
  if command.isEmpty then refuse (.argument .noShellCommand)
  let lines ← span
    { name := "shell::run", component? := some "shell", metadata := [("command", command)] }
    (executeCommand command)
  return { status := "shell", output := lines }

/-! ## Files -/

/-- The text of a file. -/
def fileText (path : String) : EditorM String := do
  let editor ← get
  (editor.disk.readText editor.platform.codecs path editor.config.encoding : Except Fault String)

/-- Inserts the lines of a file behind the line and shows the number of characters. -/
def readFile (invocation : Invocation) : EditorM Reply := do
  let path := Text.strip invocation.args
  if invocation.args.length < 2 ∨ path.isEmpty then refuse (.argument .invalidFileName)
  let text ← refusingFiles .cannotOpen (fileText path)
  modifyBuffer (·.insertText invocation.start text)
  return { status := "read", output := [toString text.length] }

/-- What is to be written where. -/
def saveJob (path? : Option String) : EditorM SaveJob := do
  let editor ← get
  match editor.buffer.prepareSave editor.platform.codecs path? with
  | .ok job => return job
  | .error (.buffer .noPath) => refuse (.inputOutput .noFileName)
  | .error fault => throw fault

/-- Puts bytes on the disk. -/
def writeBytes (path : String) (bytes : ByteArray) : EditorM Unit := do
  let editor ← get
  let disk ← (editor.disk.write path bytes : Except Fault Disk)
  set { editor with disk }

/-- Writes the text to the path that is given, or to the buffer's own, and gives the number of
characters. -/
def saveBuffer (path? : Option String) : EditorM Nat := do
  let job ← saveJob path?
  let name := (← get).buffer.name
  span { name := "buffer::save", component? := some "buffer::save", metadata := [("buffer", name)] }
    (writeBytes job.target job.bytes)
  modifyBuffer fun buffer => .ok (buffer.markSaved job.target)
  return job.length

/-- Writes the text to a file and shows the number of characters. -/
def writeFile (invocation : Invocation) : EditorM Reply := do
  let path := Text.strip invocation.args
  let size ← refusingFiles .cannotWrite (saveBuffer (if path.isEmpty then none else some path))
  return { status := "write", output := [toString size] }

end LineEditor.EditorM

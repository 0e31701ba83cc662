import LineEditor.Editor.Launch

/-!
# The console host

A host feeds lines into an editor and shows the answers until the session ends.
A round shows the prompt, reads a line and submits it.  When there are no more
lines, it submits what ends the session: the end of the text first if one is
being entered, then the command to quit, which has to be repeated if there are
unsaved changes.

What is written is kept in order, so that a round and a whole run are plain
functions.
-/

set_option autoImplicit false

namespace LineEditor.Console

/-- A host: the editor, the lines still to be read, how many times a line has been asked for, and
what has been written. -/
structure Host where
  editor : Editor
  input : List String := []
  reads : Nat := 0
  writes : Array String := #[]

/-- The log of the console. -/
def loggerName : String := "ed_engine.adapters.console"

namespace Host

/-- A host for an editor. -/
def attach (editor : Editor) (input : List String) : Host where
  editor := { editor.updateJournal (·.prepare loggerName) with hosted := true }
  input

/-- Writes a text unless it is empty. -/
def write (host : Host) (text : String) : Host :=
  if text.isEmpty then host else { host with writes := host.writes.push text }

/-- Shows the prompt. -/
def showPrompt (host : Host) : Host :=
  host.write host.editor.prompt

/-- Reads a line; an empty one means that there are no more. -/
def readLine (host : Host) : String × Host :=
  (host.input.headD "", { host with input := host.input.tail, reads := host.reads + 1 })

/-- What to submit when there are no more lines. -/
def closingLine (editor : Editor) : String :=
  if editor.session.mode = .text then EditorM.textEnd else "q"

/-- Shows an answer. -/
def showOutput (host : Host) (output : Output) : Host :=
  if output.lines.isEmpty then host else host.write (output.text ++ "\n")

/-- Submits a line that has been read and shows the answer. -/
def feed (host : Host) (raw : String) : Except Fault Unit × Host :=
  let line := if raw.isEmpty then closingLine host.editor else raw
  match (EditorM.submit line).runOn host.editor with
  | (.ok output, editor) => (.ok (), { host with editor }.showOutput output)
  | (.error fault, editor) => (.error fault, { host with editor })

/-- One round. -/
def round (host : Host) : Except Fault Unit × Host :=
  let (raw, host) := host.showPrompt.readLine
  host.feed raw

/-- Rounds until the session ends, but no more than a given number. -/
def rounds : Nat → Host → Except Fault Unit × Host
  | 0, host => (.ok (), host)
  | bound + 1, host =>
    if host.editor.session.ended then (.ok (), host)
    else match host.round with
      | (.ok (), next) => rounds bound next
      | stopped => stopped

/-- Runs until the session ends.  Beyond one round for each line there are at most three: one to
end the text, one to quit, and one to quit again. -/
def run (host : Host) : Except Fault Unit × Host :=
  host.rounds (host.input.length + 3)

end Host

end LineEditor.Console

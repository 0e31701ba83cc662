import LineEditor.Editor.Basic

/-!
# The state of the session

The commands that touch only the session: errors and how they are shown, the
prompt, marks, the file name, and quitting.

Quitting with unsaved changes is refused once.  Only quitting again, even after
other commands, ends the session then.
-/

set_option autoImplicit false

namespace LineEditor.EditorM

/-- Shows the last error if errors are shown at all. -/
def showError : EditorM Reply := do
  let session := (← get).session
  let output :=
    if !session.verboseErrors then ["?"]
    else if session.lastError.isEmpty then []
    else [session.lastError]
  return { status := "help", output }

/-- Switches whether errors are shown in words, and shows the last one. -/
def toggleVerbose : EditorM Reply := do
  modifySession fun session => { session with verboseErrors := !session.verboseErrors }
  showError

/-- Switches whether the prompt is shown. -/
def togglePrompt : EditorM Reply := do
  modifySession fun session => { session with promptVisible := !session.promptVisible }
  return { status := "prompt" }

/-- Marks the line with a name of one character. -/
def setMark (invocation : Invocation) : EditorM Reply := do
  match invocation.args.toList with
  | [name] =>
    modifySession (·.setMark name invocation.start)
    return { status := "mark" }
  | _ => refuse (.argument .invalidMarkName)

/-- Shows the path of the buffer, if it has one. -/
def showFileName : EditorM Reply := do
  return { status := "filename", output := ((← get).buffer.path?.filter (· != "")).toList }

/-- Quits, unless there are unsaved changes and quitting has not been refused yet. -/
def quit : EditorM Reply := do
  let editor ← get
  if editor.session.quitState = .refusedOnce ∨ !editor.buffer.modified then
    modifySession fun session => { session with quitState := .clean }
    return { status := "quit", ended := true }
  modifySession fun session => { session with quitState := .refusedOnce }
  refuse .unsavedChanges

/-- Quits whatever has not been saved. -/
def quitUnconditionally : EditorM Reply := do
  modifySession fun session => { session with quitState := .clean }
  return { status := "quit_force", ended := true }

end LineEditor.EditorM

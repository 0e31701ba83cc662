import LineEditor.Editor.Basic

/-!
# Text entry

While text is entered, every line is inserted as it stands, each behind the one
before, until a line that consists of a single point ends the text.  The
transaction of the command that opened text entry stays open meanwhile, so the
whole text is one step of the history.
-/

set_option autoImplicit false

namespace LineEditor.EditorM

/-- The line that ends a text. -/
def textEnd : String := "."

/-- The log of text entry. -/
def textLoggerName : String := "ed_engine.modes.text"

/-- Begins a text. -/
def beginText : EditorM Unit := do
  modify fun editor => { editor with entered := 0 }
  emit (.textBegun (← get).session.insertAfter)

/-- Closes the transaction that was kept open, if there is one. -/
def closePending : EditorM Unit :=
  modify fun editor =>
    if editor.pending then { editor with pending := false }.leaveTransaction true else editor

/-- Ends a text. -/
def endText : EditorM Unit := do
  closePending
  let count := (← get).entered
  modify (·.updateJournal fun journal =>
    journal.message textLoggerName .debug "text entry closed" [("lines", toString count)])
  emit (.textEnded count)

/-- Goes to the last line entered and asks for commands again. -/
def finishText : EditorM Reply := do
  let editor ← get
  setCurrent (max 1 (min editor.session.insertAfter editor.buffer.lineCount))
  return { status := "insert_end", switchTo? := some Mode.command.name }

/-- Inserts a line of the text. -/
def enterLine (line : String) : EditorM Reply := do
  insertLines (← get).session.insertAfter [line]
  modifySession fun session => { session with insertAfter := session.insertAfter + 1 }
  modify fun editor => { editor with entered := editor.entered + 1 }
  setCurrent (← get).session.insertAfter
  return { status := "insert_line" }

/-- Handles a line as text. -/
def handleText (line : String) : EditorM Reply :=
  if line = textEnd then finishText else enterLine line

end LineEditor.EditorM

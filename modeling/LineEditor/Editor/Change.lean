import LineEditor.Editor.Basic
import LineEditor.Substitution

/-!
# Changing lines

The commands that change the document: deleting, joining, moving and copying
lines, substituting in them, taking the last change back, and opening text
entry, which goes on until a line says that it ends.
-/

set_option autoImplicit false

namespace LineEditor.EditorM

/-- Resolves an address token.  A search that finds a line is remembered. -/
def resolveAddress (token : String) : EditorM Int := do
  let editor ← get
  let session := editor.session
  let (outcome, lastSearch?) :=
    Address.resolve editor.platform.engine editor.buffer session.marks session.lastSearch? token
  modifySession fun session => { session with lastSearch? }
  (outcome : Except Fault Int)

/-! ## Text entry -/

/-- Opens text entry behind a line, or behind the nearest place to it. -/
def openText (after : Int) : EditorM Reply := do
  let count := (← get).buffer.lineCount
  modifySession fun session => { session with insertAfter := max 0 (min after count) }
  return { status := "insert", switchTo? := some Mode.text.name }

/-- Opens text entry behind the line. -/
def appendText (invocation : Invocation) : EditorM Reply :=
  openText invocation.start

/-- Opens text entry before the line. -/
def insertText (invocation : Invocation) : EditorM Reply :=
  openText (invocation.start - 1)

/-- Deletes the lines and opens text entry in their place. -/
def changeLines (invocation : Invocation) : EditorM Reply := do
  modifyBuffer (·.removeRange invocation.start invocation.stop)
  openText (invocation.start - 1)

/-! ## Edits -/

/-- Deletes the lines. -/
def deleteLines (invocation : Invocation) : EditorM Reply := do
  modifyBuffer (·.removeLines invocation.start invocation.stop)
  return { status := "delete" }

/-- The last line to be joined: without an address it is the one after the current line. -/
def joinStop (invocation : Invocation) (lineCount : Nat) : Except Fault Nat :=
  if invocation.addressed then .ok invocation.stop
  else if invocation.start + 1 > lineCount then .error (.refusal .outOfRange)
  else .ok (invocation.start + 1)

/-- Joins the lines into one. -/
def joinLines (invocation : Invocation) : EditorM Reply := do
  let count := (← get).buffer.lineCount
  let stop ← (joinStop invocation count : Except Fault Nat)
  if invocation.start < stop ∧ 0 < count then modifyBuffer (·.joinLines invocation.start stop)
  return { status := "join" }

/-- The line behind which to put lines, which the arguments of a command address. -/
def destination (args : String) : EditorM Nat := do
  let token := Text.strip args
  let target ← resolveAddress (if token.isEmpty then "." else token)
  let buffer := (← get).buffer
  if target < 0 ∨ target > buffer.lastLine then refuse .outOfRange
  return min target.toNat buffer.lineCount

/-- Moves the lines behind another line, which must not be one of them but may be the last. -/
def moveLines (invocation : Invocation) : EditorM Reply := do
  let target ← destination invocation.args
  if invocation.start ≤ target ∧ target < invocation.stop then
    refuse (.address .invalidDestination)
  if (← get).buffer.lineCount ≠ 0 then
    modifyBuffer (·.moveLines invocation.start invocation.stop target)
  return { status := "move" }

/-- Copies the lines behind a line. -/
def copyLines (invocation : Invocation) : EditorM Reply := do
  let target ← destination invocation.args
  if (← get).buffer.lineCount ≠ 0 then
    modifyBuffer (·.copyLines invocation.start invocation.stop target)
  return { status := "transfer" }

/-! ## Substitution and undo -/

/-- The changes that a substitution makes to the lines that are meant. -/
def changesOf (editor : Editor) (substitution : Substitution) (invocation : Invocation) :
    Except Fault (List (Nat × String)) := do
  let compiled ← (Pattern.read editor.platform.engine substitution.pattern).mapError Fault.ofPattern
  let template := Pattern.expandReplacement substitution.replacement
  let lines ← editor.buffer.readRange invocation.start invocation.stop
  Substitution.changes (compiled.replace template substitution.all) invocation.start lines

/-- Substitutes in the lines, at least one of which must match. -/
def substitute (invocation : Invocation) : EditorM Reply := do
  let editor ← get
  let session := editor.session
  let substitution ←
    (Substitution.read editor.platform.engine invocation.args session.lastSubstitution?
      session.lastSearch? : Except Fault Substitution)
  let changes ← (changesOf editor substitution invocation : Except Fault (List (Nat × String)))
  match changes.getLast? with
  | none => refuse (.address .noMatch)
  | some (last, _) =>
    modifyBuffer (·.replaceLines changes)
    setCurrent last
    modifySession fun session =>
      { session with
        lastSubstitution? := some substitution
        lastSearch? := some substitution.pattern }
    return { status := "substitute" }

/-- Takes the last change back. -/
def undo : EditorM Reply := do
  modifyBuffer fun buffer =>
    match buffer.undo? with
    | some restored => .ok restored
    | none => .error (.refusal .nothingToUndo)
  return { status := "undo" }

end LineEditor.EditorM

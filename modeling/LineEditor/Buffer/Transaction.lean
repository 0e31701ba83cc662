import LineEditor.Buffer.Basic

/-!
# Transactions and undo

A transaction groups edits into one step of the history.  The outermost one
remembers the buffer as it was when it was opened.  Leaving it normally pushes
that state on the history if the document has changed since (`Buffer.commit`),
and leaving it because of a fault puts the document, the current line and the
modified flag back (`Buffer.rollback`).  Transactions inside of it are only
counted and have no effect of their own.

An edit made while no transaction is open forms one by itself (`Buffer.edit`).
-/

set_option autoImplicit false

namespace LineEditor

namespace Buffer

/-- Opens a transaction. -/
def enter (buffer : Buffer) (label : String) : Buffer :=
  match buffer.opened? with
  | some _ => { buffer with depth := buffer.depth + 1 }
  | none =>
    { buffer with
      opened? := some ⟨label, buffer.document, buffer.current, buffer.modified⟩
      depth := 0 }

/-- Whether the document has changed since a checkpoint. -/
def changedSince (buffer : Buffer) (checkpoint : Checkpoint) : Bool :=
  checkpoint.document.version != buffer.document.version

/-- Leaves the innermost open transaction normally. -/
def commit (buffer : Buffer) : Buffer :=
  match buffer.opened?, buffer.depth with
  | none, _ => buffer
  | some _, depth + 1 => { buffer with depth }
  | some checkpoint, 0 =>
    let closed := { buffer with opened? := none }
    if buffer.changedSince checkpoint then
      { closed with
        history := closed.history.push
          ⟨checkpoint.label, checkpoint.document.lines, checkpoint.current⟩ }
    else closed

/-- Leaves the innermost open transaction because of a fault. -/
def rollback (buffer : Buffer) : Buffer :=
  match buffer.opened?, buffer.depth with
  | none, _ => buffer
  | some _, depth + 1 => { buffer with depth }
  | some checkpoint, 0 =>
    { buffer with
      opened? := none
      document := checkpoint.document
      current := checkpoint.current
      modified := checkpoint.modified }

/-- Replaces the document by an edited one. -/
def apply (buffer : Buffer) (document : Document) : Buffer :=
  { buffer with document, modified := true }

/-- Makes an edit, as a transaction of its own if none is open. -/
def edit (buffer : Buffer) (label : String) (change : Buffer → Buffer) : Buffer :=
  match buffer.opened? with
  | some _ => change buffer
  | none => (change (buffer.enter label)).commit

/-- Inserts lines behind the line with the given number, or at the top behind number zero. -/
def insertLines (buffer : Buffer) (after : Int) (lines : List String) : Except Fault Buffer := do
  buffer.checkLine 0 after
  if lines.isEmpty then return buffer
  return buffer.edit "insert_lines" fun opened =>
    opened.apply (opened.document.update after after lines)

/-- Deletes a range of lines. -/
def deleteRange (buffer : Buffer) (start finish : Int) : Except Fault Buffer := do
  buffer.checkRange start finish
  return buffer.edit "delete_range" fun opened =>
    (opened.apply (opened.document.update (start - 1) finish [])).clampCurrent

/-- Goes back to the latest entry of the history, if there is one. -/
def undo? (buffer : Buffer) : Option Buffer :=
  buffer.history.pop?.map fun (entry, history) =>
    let restored := { buffer with history }.apply (buffer.document.replace entry.lines)
    { restored with current := entry.current }.clampCurrent

end Buffer

end LineEditor

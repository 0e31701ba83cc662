import LineEditor.Buffer.Transaction

/-!
# Composed edits

The edits that commands make, each composed of insertions and deletions: joining
lines into one, moving and copying blocks, and replacing single lines.
-/

set_option autoImplicit false

namespace LineEditor

namespace Buffer

/-- Deletes a range of lines; in an empty buffer there is nothing to delete. -/
def removeRange (buffer : Buffer) (start stop : Nat) : Except Fault Buffer :=
  if buffer.lineCount = 0 then .ok buffer else buffer.deleteRange start stop

/-- Deletes a range of lines and goes to the line that follows, or to the last one. -/
def removeLines (buffer : Buffer) (start stop : Nat) : Except Fault Buffer := do
  let removed ← buffer.removeRange start stop
  removed.setCurrent (max 1 (min start removed.lineCount))

/-- Joins a range of lines into one and goes to it. -/
def joinLines (buffer : Buffer) (start stop : Nat) : Except Fault Buffer := do
  let lines ← buffer.readRange start stop
  let removed ← buffer.deleteRange start stop
  let joined ← removed.insertLines ((start : Int) - 1) [String.join lines]
  joined.setCurrent start

/-- Moves a range of lines behind a line outside of it and goes to the last of them. -/
def moveLines (buffer : Buffer) (start stop target : Nat) : Except Fault Buffer := do
  let lines ← buffer.readRange start stop
  let removed ← buffer.deleteRange start stop
  let place := if target ≥ stop then target - lines.length else target
  let moved ← removed.insertLines place lines
  moved.setCurrent (place + lines.length)

/-- Copies a range of lines behind a line and goes to the last of the copies. -/
def copyLines (buffer : Buffer) (start stop target : Nat) : Except Fault Buffer := do
  let lines ← buffer.readRange start stop
  let copied ← buffer.insertLines target lines
  copied.setCurrent (target + lines.length)

/-- Replaces one line. -/
def replaceLine (buffer : Buffer) (number : Nat) (line : String) : Except Fault Buffer := do
  let removed ← buffer.deleteRange number number
  removed.insertLines ((number : Int) - 1) [line]

/-- Replaces lines one after the other. -/
def replaceLines (buffer : Buffer) : List (Nat × String) → Except Fault Buffer
  | [] => .ok buffer
  | (number, line) :: rest => do
    let replaced ← buffer.replaceLine number line
    replaced.replaceLines rest

/-- Inserts the lines of a text behind a line, or behind the last one, and goes to the last of
them. -/
def insertText (buffer : Buffer) (after : Nat) (text : String) : Except Fault Buffer := do
  let place := min after buffer.lineCount
  let lines := Text.splitLines text
  let inserted ← buffer.insertLines place lines
  if lines.isEmpty then return inserted
  inserted.setCurrent (place + lines.length)

end Buffer

end LineEditor

import LineEditor.Editor.Basic
import LineEditor.Text.Listing

/-!
# Displaying lines

The commands that show lines and change none: printing them as they are, with
their numbers or unambiguously, and telling the number of a line.  Whatever is
printed, the last line of it becomes the current one.
-/

set_option autoImplicit false

namespace LineEditor.EditorM

/-- The lines that are meant; the last of them becomes the current one. -/
def visitLines (invocation : Invocation) : EditorM (List String) := do
  let editor ← get
  let lines ←
    (editor.buffer.readRange invocation.start invocation.stop : Except Fault (List String))
  setCurrent invocation.stop
  return lines

/-- Prints the lines. -/
def printLines (invocation : Invocation) : EditorM Reply := do
  return { status := "print", output := ← visitLines invocation }

/-- A line behind its number. -/
def numberedLine (number : Nat) (line : String) : String :=
  toString number ++ "\t" ++ line

/-- Prints the lines with their numbers. -/
def numberLines (invocation : Invocation) : EditorM Reply := do
  let lines ← visitLines invocation
  return {
    status := "print"
    output := (lines.zipIdx invocation.start).map fun (line, number) => numberedLine number line }

/-- Prints the lines unambiguously. -/
def listLines (invocation : Invocation) : EditorM Reply := do
  return { status := "print", output := (← visitLines invocation).map Text.listedLine }

/-- Tells the number of the line. -/
def showLineNumber (invocation : Invocation) : EditorM Reply :=
  return { status := "line_number", output := [toString invocation.start] }

/-- Does nothing. -/
def comment : EditorM Reply :=
  return { status := "noop" }

end LineEditor.EditorM

import LineEditor.Buffer.History
import LineEditor.Disk
import LineEditor.Document

/-!
# Buffers

A buffer is the document being edited with all that belongs to it: the current
line, whether there are changes since it was last saved, the path of its file,
the undo history, and the transaction that is open, if one is.

The highest line that can be addressed is the last one, and in an empty buffer
it is line 1 (`Buffer.lastLine`), so the current line always lies between 1 and
the highest line.
-/

set_option autoImplicit false

namespace LineEditor

/-- What a transaction has to remember of the buffer to be undone as a whole. -/
structure Checkpoint where
  label : String
  document : Document
  current : Nat
  modified : Bool
  deriving DecidableEq

/-- A document being edited.  `opened?` holds what the outermost open transaction remembers, and
`depth` counts the open transactions inside it. -/
structure Buffer where
  name : String := "default"
  document : Document := {}
  current : Nat := 1
  modified : Bool := false
  path? : Option String := none
  history : History := {}
  encoding : String := "utf-8"
  opened? : Option Checkpoint := none
  depth : Nat := 0
  deriving DecidableEq

/-- What a buffer is made from. -/
structure BufferParts where
  name : String := "default"
  document : Document := {}
  current : Nat := 1
  modified : Bool := false
  path? : Option String := none
  history? : Option History := none
  encoding : String := "utf-8"

namespace Buffer

/-- The number of lines. -/
def lineCount (buffer : Buffer) : Nat :=
  buffer.document.lineCount

/-- The highest line that can be addressed. -/
def lastLine (buffer : Buffer) : Nat :=
  max buffer.lineCount 1

/-- The lines. -/
def lines (buffer : Buffer) : List String :=
  buffer.document.lines

/-- The text of the document. -/
def text (buffer : Buffer) : String :=
  buffer.document.text

/-- Moves the current line to the nearest one that can be addressed. -/
def clampCurrent (buffer : Buffer) : Buffer :=
  { buffer with current := max 1 (min buffer.current buffer.lastLine) }

/-- Makes a buffer. -/
def make (parts : BufferParts) : Buffer :=
  clampCurrent
    { name := parts.name
      document := parts.document
      current := parts.current
      modified := parts.modified
      path? := parts.path?
      history := .orUsual parts.history?
      encoding := parts.encoding }

/-- The buffer of a text. -/
def ofText (text : String) (path? : Option String := none) : Buffer :=
  make { document := .ofText text, path? }

/-- The buffer of a list of lines. -/
def ofLines (lines : List String) (path? : Option String := none) : Buffer :=
  make { document := .ofLines lines, path? }

/-- Makes a line the current one. -/
def setCurrent (buffer : Buffer) (line : Int) : Except Fault Buffer :=
  if line < 1 ∨ line > buffer.lastLine then .error (.buffer .currentOutOfRange)
  else .ok { buffer with current := line.toNat }

/-- Checks that there is a line with a number, counted from `lowest`. -/
def checkLine (buffer : Buffer) (lowest line : Int) : Except Fault Unit :=
  if line < lowest ∨ line > buffer.lineCount then .error (.buffer .lineOutOfRange) else .ok ()

/-- Checks that two numbers are a range of lines. -/
def checkRange (buffer : Buffer) (start finish : Int) : Except Fault Unit := do
  buffer.checkLine 1 start
  buffer.checkLine 1 finish
  if finish < start then throw (.buffer .endBeforeStart)

/-- The lines of a range.  An empty buffer has none, whatever the range. -/
def readRange (buffer : Buffer) (start finish : Int) : Except Fault (List String) :=
  if buffer.lineCount = 0 then .ok []
  else do
    buffer.checkRange start finish
    return (buffer.lines.take finish.toNat).drop (start - 1).toNat

end Buffer

end LineEditor

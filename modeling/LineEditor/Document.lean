import LineEditor.Text.Lines

/-!
# Documents

A document is a list of lines without ends of line.  Every edit gives a new
document whose version is one higher, so that a changed document can be told
from an unchanged one without comparing lines.

Two kinds of positions occur.  A cut is a number of lines from the start, where
a negative cut counts from the end and one out of range is moved to the nearest
end (`Document.cut`).  A line number counts from one, and again zero and
negative numbers count from the end (`Document.line?`).
-/

set_option autoImplicit false

namespace LineEditor

/-- Lines without ends of line, and the number of edits that led to them. -/
structure Document where
  lines : List String := []
  version : Nat := 0
  deriving DecidableEq

namespace Document

/-- The document of a text. -/
def ofText (text : String) : Document :=
  { lines := Text.splitLines text }

/-- The document of a list of lines. -/
def ofLines (lines : List String) : Document :=
  { lines }

/-- The number of lines. -/
def lineCount (document : Document) : Nat :=
  document.lines.length

/-- The text of a document, every line with a line feed. -/
def text (document : Document) : String :=
  Text.joinLines document.lines

/-- The document with all lines replaced. -/
def replace (document : Document) (lines : List String) : Document :=
  { lines, version := document.version + 1 }

/-- A cut as a number of lines from the start. -/
def cut (document : Document) (position : Int) : Nat :=
  let count : Int := document.lineCount
  (max 0 (min count (if position < 0 then position + count else position))).toNat

/-- The document with the lines between two cuts replaced.  If the second cut comes before the
first one, nothing is removed. -/
def update (document : Document) (start finish : Int) (lines : List String) : Document :=
  let first := document.cut start
  let last := max first (document.cut finish)
  document.replace (document.lines.take first ++ lines ++ document.lines.drop last)

/-- The line with the given number; zero is the last line and negative numbers go on from there
towards the first. -/
def line? (document : Document) (number : Int) : Option String :=
  if number ≥ 1 then document.lines[(number - 1).toNat]?
  else if number + document.lineCount ≥ 1 then
    document.lines[(number + document.lineCount - 1).toNat]?
  else none

end Document

end LineEditor

import LineEditor.Buffer.Basic
import LineEditor.Pattern.Matcher

/-!
# Searching a buffer

A search goes through the lines after a given one, or backwards through those
before it, and stops at the first line in which the pattern matches somewhere.
It does not go on at the other end of the buffer.

A forward search may start from a negative number.  Its first lines then have
numbers below one, which count from the end.
-/

set_option autoImplicit false

namespace LineEditor

namespace Buffer

/-- The first of `count` lines from `number` upwards that satisfies a condition. -/
def firstUp (document : Document) (accept : String → Bool) : Nat → Int → Except Fault (Option Int)
  | 0, _ => .ok none
  | count + 1, number =>
    match document.line? number with
    | none => .error .noSuchLine
    | some line =>
      if accept line then .ok (some number) else firstUp document accept count (number + 1)

/-- The first of the lines from `number` downwards that satisfies a condition. -/
def firstDown (document : Document) (accept : String → Bool) : Nat → Option Nat
  | 0 => none
  | number + 1 =>
    if (document.line? (number + 1)).any accept then some (number + 1)
    else firstDown document accept number

/-- Whether a pattern matches somewhere in a line. -/
def lineMatches (pattern : Pattern) (line : String) : Bool :=
  (pattern.search line).isSome

/-- The first line after a given one that satisfies a condition. -/
def findForward (buffer : Buffer) (accept : String → Bool) (origin : Int) :
    Except Fault (Option Int) :=
  firstUp buffer.document accept (buffer.lineCount - origin).toNat (origin + 1)

/-- The last line before a given one that satisfies a condition. -/
def findBackward (buffer : Buffer) (accept : String → Bool) (origin : Int) : Option Nat :=
  firstDown buffer.document accept (min origin (buffer.lineCount + 1) - 1).toNat

/-- The first line after a given one in which a pattern matches. -/
def searchForward (buffer : Buffer) (pattern : Pattern) (origin : Int) :
    Except Fault (Option Int) :=
  buffer.findForward (lineMatches pattern) origin

/-- The last line before a given one in which a pattern matches. -/
def searchBackward (buffer : Buffer) (pattern : Pattern) (origin : Int) : Option Nat :=
  buffer.findBackward (lineMatches pattern) origin

end Buffer

end LineEditor

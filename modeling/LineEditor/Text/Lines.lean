/-!
# Lines of a text

`splitLines` cuts a text at its line boundaries, and `joinLines` writes lines
back with a line feed after each.  A carriage return followed by a line feed is
one boundary, and a boundary at the very end opens no further line.

`splitAtFeeds` is the plainer rule of an input stream, whose lines end at line
feeds only and keep them, and `normaliseFeeds` turns the other two ends of line
into a line feed.
-/

set_option autoImplicit false

namespace LineEditor.Text

/-- Whether a character ends a line. -/
def isLineBoundary (char : Char) : Bool :=
  let point := char.toNat
  (10 ≤ point && point ≤ 13) || (28 ≤ point && point ≤ 30) || point == 0x85
    || point == 0x2028 || point == 0x2029

/-- The lines of the rest of a text, after the characters `pending` of the line being read,
which are held in reverse order. -/
def linesAfter (pending : List Char) : List Char → List String
  | [] => if pending.isEmpty then [] else [String.ofList pending.reverse]
  | '\r' :: '\n' :: rest => String.ofList pending.reverse :: linesAfter [] rest
  | char :: rest =>
    if isLineBoundary char then String.ofList pending.reverse :: linesAfter [] rest
    else linesAfter (char :: pending) rest

/-- The lines of a text, without their ends of line. -/
def splitLines (text : String) : List String :=
  linesAfter [] text.toList

/-- The text of a list of lines: each line followed by a line feed. -/
def joinLines (lines : List String) : String :=
  String.ofList (lines.flatMap fun line => line.toList ++ ['\n'])

/-- The lines of a stream, each with its line feed, after the characters `pending`. -/
def feedsAfter (pending : List Char) : List Char → List String
  | [] => if pending.isEmpty then [] else [String.ofList pending.reverse]
  | char :: rest =>
    if char = '\n' then String.ofList (char :: pending).reverse :: feedsAfter [] rest
    else feedsAfter (char :: pending) rest

/-- The lines of an input stream: they end at line feeds only and keep them. -/
def splitAtFeeds (text : String) : List String :=
  feedsAfter [] text.toList

/-- Characters with every carriage return, alone or before a line feed, as a line feed. -/
def normaliseFeeds : List Char → List Char
  | [] => []
  | '\r' :: '\n' :: rest => '\n' :: normaliseFeeds rest
  | char :: rest => (if char = '\r' then '\n' else char) :: normaliseFeeds rest

end LineEditor.Text

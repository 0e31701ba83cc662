import LineEditor.Address.Token
import LineEditor.Buffer.Search
import LineEditor.Pattern.Reader

/-!
# Resolving addresses

An address token is resolved to a line number against the buffer as it is now,
the marks that have been set, and the pattern searched for last.  The number is
the value of the base plus the sum of the offsets; whether there is a line with
that number is for others to check.

A search that finds a line becomes the remembered pattern, even if the offsets
behind it turn out to be malformed.  `Address.resolve` therefore gives the
remembered pattern beside the answer.
-/

set_option autoImplicit false

namespace LineEditor.Address

open LineEditor.Text

/-- The marks: names of one character and line numbers. -/
abbrev Marks := List (Char × Int)

/-- The line that a mark name stands for. -/
def markedLine (marks : Marks) : List Char → Except Fault Int
  | [name] =>
    match marks.lookup name with
    | some line => .ok line
    | none => .error (.refusal (.address .undefinedMark))
  | _ => .error (.refusal (.address .invalidMark))

/-- The pattern that a search means: an empty body stands for the remembered pattern. -/
def effectivePattern (lastSearch? : Option String) (body : List Char) : Except Fault String :=
  if body.isEmpty then
    match lastSearch? with
    | some text => .ok text
    | none => .error (.refusal (.address .noPreviousPattern))
  else .ok (String.ofList body)

/-- Reads the pattern of a search. -/
def readPattern (engine : Pattern.Engine) (text : String) : Except Fault Pattern.Compiled :=
  match Pattern.read engine text with
  | .ok compiled => .ok compiled
  | .error .malformed => .error (.refusal (.address .invalidPattern))
  | .error fault => .error (.ofPattern fault)

/-- The line that a search finds, and the pattern it was made with. -/
def searchLine (engine : Pattern.Engine) (buffer : Buffer) (lastSearch? : Option String)
    (isForward : Bool) (body : List Char) : Except Fault (Int × String) := do
  let text ← effectivePattern lastSearch? body
  let compiled ← readPattern engine text
  let found? : Option Int ←
    if isForward then buffer.searchForward compiled.pattern buffer.current
    else pure ((buffer.searchBackward compiled.pattern buffer.current).map Int.ofNat)
  match found? with
  | some line => return (line, text)
  | none => throw (.refusal (.address .noMatch))

/-- The line that digits write. -/
def numberedLine (digits : List Char) : Except Fault Int :=
  match readDigits digits with
  | .ok value => .ok value
  | .error fault => .error (.ofNumeral (String.ofList digits) fault)

/-- The value of a base, and the remembered pattern after it. -/
def resolveBase (engine : Pattern.Engine) (buffer : Buffer) (marks : Marks)
    (lastSearch? : Option String) : Base → Except Fault (Int × Option String)
  | .current => .ok (buffer.current, lastSearch?)
  | .last => .ok (buffer.lastLine, lastSearch?)
  | .number digits => (numberedLine digits).map (·, lastSearch?)
  | .mark name => (markedLine marks name).map (·, lastSearch?)
  | .search isForward body =>
    (searchLine engine buffer lastSearch? isForward body).map fun (line, text) => (line, some text)

/-- The amount of an offset. -/
def Offset.value (offset : Offset) : Except Fault Int := do
  let amount ← if offset.digits.isEmpty then pure 1 else numberedLine offset.digits
  return if offset.isNegative then -amount else amount

/-- The sum of offsets. -/
def sumOffsets : List Offset → Except Fault Int
  | [] => .ok 0
  | offset :: rest => do
    let amount ← offset.value
    return amount + (← sumOffsets rest)

/-- The sum of the offsets of a token. -/
def offsetOf (token : String) (chars : List Char) : Except Fault Int :=
  match readOffsets? chars with
  | some offsets => sumOffsets offsets
  | none => .error (.refusal (.address (.malformed token)))

/-- The line number of an address token, and the remembered pattern afterwards. -/
def resolve (engine : Pattern.Engine) (buffer : Buffer) (marks : Marks)
    (lastSearch? : Option String) (token : String) : Except Fault Int × Option String :=
  let (base, offsets) := splitChars token.toList
  match resolveBase engine buffer marks lastSearch? (.ofChars base) with
  | .error fault => (.error fault, lastSearch?)
  | .ok (line, remembered?) => ((offsetOf token offsets).map (line + ·), remembered?)

end LineEditor.Address

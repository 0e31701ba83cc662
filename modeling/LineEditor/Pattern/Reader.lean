import LineEditor.Pattern.Basic
import LineEditor.Pattern.Engine
import LineEditor.Pattern.Flags
import LineEditor.Text.Identifier
import LineEditor.Text.Numeral

/-!
# Reading patterns

`Pattern.read` turns the text of a pattern into the pattern that it writes, or
says why it writes none.  What this depends on besides the text is the engine.

The reader goes through the tokens once, from left to right.  What is open at
any moment is a stack of frames, one for each parenthesis, each with the part of
the surrounding pattern that has been read; closing a parenthesis turns the top
frame into one item of the part below.  Every round of the reader uses up at
least one token, so the number of tokens bounds the rounds.

Faults that concern the pattern as a whole are found last: flags that exclude
each other, a parenthesis that closes nothing, a condition on a group that does
not exist, and an assertion about what stands before that has no single width.
-/

set_option autoImplicit false

namespace LineEditor.Pattern

open LineEditor.Text

/-- Repetition counts have to stay below this one. -/
def repeatLimit : Nat := 4294967295

/-- Group numbers in a condition have to stay below this one. -/
def groupLimit : Nat := 1073741823

/-- What decides whether an item may be repeated. -/
inductive Shape where
  | anchor
  | repetition
  | other
  deriving DecidableEq

/-- A part of a sequence that has been read. -/
structure Item where
  pattern : Pattern
  shape : Shape

/-- A choice that is being read: finished alternatives and items of the current one, the latest
first in both, and the flags that hold. -/
structure Level where
  finished : List Pattern := []
  items : List Item := []
  flags : Flags := {}
  verbose : Bool := false

/-- The sequence read last at a level. -/
def Level.current (level : Level) : Pattern :=
  .ofSequence (level.items.reverse.map Item.pattern)

/-- All alternatives of a level. -/
def Level.whole (level : Level) : Pattern :=
  .ofAlternatives (level.finished.reverse ++ [level.current])

/-- A level with one more item. -/
def Level.push (level : Level) (pattern : Pattern) (shape : Shape := .other) : Level :=
  { level with items := ⟨pattern, shape⟩ :: level.items }

/-- What an open parenthesis will become.  An assertion about what stands before remembers
whether it is the outermost of its kind. -/
inductive Opening where
  | capture (index : Nat)
  | plain
  | atomic
  | look (isAhead negated outermost : Bool)
  | condition (index : Nat) (present? : Option Pattern)

/-- An open parenthesis and the level around it. -/
structure Frame where
  opening : Opening
  outer : Level

/-- The state of the reader.  A group has a width once it is closed; `lookbehindGroups` is the
number of groups there were when an assertion about what stands before was opened. -/
structure Reader where
  tokens : List Token
  level : Level := {}
  frames : List Frame := []
  flags : Flags := {}
  names : List (String × Nat) := []
  widths : List (Option Width) := []
  lookbehindGroups : Option Nat := none
  conditions : List Nat := []
  faulty : Bool := false

namespace Reader

/-- The reader at another place. -/
def withTokens (reader : Reader) (tokens : List Token) : Reader :=
  { reader with tokens }

/-- The number of groups opened so far, counting the whole pattern as one. -/
def groupCount (reader : Reader) : Nat :=
  reader.widths.length + 1

/-- The width of a closed group. -/
def width? (reader : Reader) (index : Nat) : Option Width :=
  if index = 0 then none else (reader.widths[index - 1]?).join

/-- The width of a pattern that refers to closed groups only. -/
def widthOf (reader : Reader) (pattern : Pattern) : Width :=
  pattern.width fun index => (reader.width? index).getD ⟨0, some 0⟩

/-- Adds an item to the current level. -/
def push (reader : Reader) (pattern : Pattern) (shape : Shape := .other) : Reader :=
  { reader with level := reader.level.push pattern shape }

/-- How letter case is treated at the current level. -/
def folding (reader : Reader) : Folding :=
  if reader.level.flags.ignoreCase then
    if reader.level.flags.ascii then .plain else .full
  else .exact

/-- Adds a single character. -/
def pushPoint (reader : Reader) (point : Nat) : Reader :=
  reader.push (.oneOf (.ofPoint false reader.folding reader.level.flags.ascii point))

/-- Adds a class. -/
def pushClass (reader : Reader) (negated : Bool) (items : List ClassItem) : Reader :=
  reader.push (.oneOf (.ofItems negated reader.folding reader.level.flags.ascii items))

/-- Whether a group may be referred to from inside an assertion about what stands before. -/
def checkLookbehind (reader : Reader) (index : Nat) : Except PatternFault Unit :=
  match reader.lookbehindGroups with
  | some limit =>
    if (reader.width? index).isNone || index ≥ limit then .error .malformed else .ok ()
  | none => .ok ()

/-- Adds a reference to a closed group. -/
def pushReference (reader : Reader) (index : Nat) : Except PatternFault Reader := do
  if (reader.width? index).isNone then throw .malformed
  reader.checkLookbehind index
  return reader.push (.reference index reader.folding)

end Reader

/-! ## Escapes -/

/-- The category that a letter after a backslash names. -/
def categoryOf? : Char → Option ClassItem
  | 'd' => some (.category .digit false)
  | 'D' => some (.category .digit true)
  | 's' => some (.category .space false)
  | 'S' => some (.category .space true)
  | 'w' => some (.category .word false)
  | 'W' => some (.category .word true)
  | _ => none

/-- The anchor that a letter after a backslash names. -/
def anchorOf? (asciiOnly : Bool) : Char → Option Anchor
  | 'A' => some .textStart
  | 'Z' => some .textEnd
  | 'b' => some (.wordEdge asciiOnly false)
  | 'B' => some (.wordEdge asciiOnly true)
  | _ => none

/-- The code point written by exactly `count` hexadecimal digits. -/
def readHexadecimal (count : Nat) (tokens : List Token) :
    Except PatternFault (Nat × List Token) := do
  let (digits, rest) ← Token.takeWhile isHexadecimal count tokens
  if digits.length != count then throw .malformed
  let point := numberIn 16 digits
  if point ≥ 0x110000 then throw .malformed
  return (point, rest)

/-- The code point of the character whose name stands between braces. -/
def readNamedPoint (engine : Engine) (tokens : List Token) :
    Except PatternFault (Nat × List Token) := do
  match ← Token.dropIf '{' tokens with
  | none => throw .malformed
  | some rest =>
    let (name, rest) ← Token.takeName '}' rest
    match engine.charNamed? name with
    | some char => return (char.toNat, rest)
    | none => throw .malformed

/-- The code point of an escape that means the same inside and outside of a class. -/
def readPoint (engine : Engine) (char : Char) (tokens : List Token) :
    Except PatternFault (Nat × List Token) :=
  if char == 'N' then readNamedPoint engine tokens
  else if char == 'x' then readHexadecimal 2 tokens
  else if char == 'u' then readHexadecimal 4 tokens
  else if char == 'U' then readHexadecimal 8 tokens
  else if char.isAlpha || char.isDigit then .error .malformed
  else .ok (char.toNat, tokens)

/-- The member of a class that an escape writes. -/
def readClassEscape (engine : Engine) (char : Char) (tokens : List Token) :
    Except PatternFault (ClassItem × List Token) :=
  match namedControl? char, categoryOf? char with
  | some point, _ => .ok (.single point, tokens)
  | none, some item => .ok (item, tokens)
  | none, none =>
    if isOctal char then do
      let (digits, rest) ← Token.takeWhile isOctal 2 tokens
      let point := numberIn 8 (char :: digits)
      if point > 0o377 then throw .malformed
      return (.single point, rest)
    else do
      let (point, rest) ← readPoint engine char tokens
      return (.single point, rest)

namespace Reader

/-- Reads a digit escape: three octal digits are a code point, anything else a group number. -/
def readDigitEscape (reader : Reader) (char : Char) : Except PatternFault Reader := do
  if char == '0' then
    let (digits, rest) ← Token.takeWhile isOctal 2 reader.tokens
    return (reader.withTokens rest).pushPoint (numberIn 8 digits)
  let (second, rest) ← Token.takeWhile Char.isDigit 1 reader.tokens
  let (third, afterThird) ←
    if isOctal char && second.all isOctal && !second.isEmpty then Token.takeWhile isOctal 1 rest
    else pure ([], rest)
  if !third.isEmpty then
    let point := numberIn 8 (char :: second ++ third)
    if point > 0o377 then throw .malformed
    return (reader.withTokens afterThird).pushPoint point
  let index := numberIn 10 (char :: second)
  (reader.withTokens rest).pushReference index

/-- Reads an escape outside of a class. -/
def readEscape (engine : Engine) (reader : Reader) (char : Char) : Except PatternFault Reader :=
  match anchorOf? reader.level.flags.ascii char, categoryOf? char, namedControl? char with
  | some anchor, _, _ => .ok (reader.push (.place anchor) .anchor)
  | none, some item, _ => .ok (reader.pushClass false [item])
  | none, none, some point => .ok (reader.pushPoint point)
  | none, none, none =>
    if char.isDigit then reader.readDigitEscape char
    else do
      let (point, rest) ← readPoint engine char reader.tokens
      return (reader.withTokens rest).pushPoint point

end Reader

/-! ## Classes -/

/-- Reads one end of a range or a single member, given its token. -/
def readMember (engine : Engine) (token : Token) (tokens : List Token) :
    Except PatternFault (ClassItem × List Token) :=
  match token with
  | .plain char => .ok (.single char.toNat, tokens)
  | .escaped char => readClassEscape engine char tokens
  | .dangling => .error .malformed

/-- The range between two members, which must be single code points in order. -/
def rangeOf : ClassItem → ClassItem → Except PatternFault ClassItem
  | .single low, .single high => if high < low then .error .malformed else .ok (.range low high)
  | _, _ => .error .malformed

/-- Reads the members of a class up to its closing bracket; a bracket that comes first is a
member.  The bound is the number of tokens. -/
def readMembers (engine : Engine) : Nat → List ClassItem → List Token →
    Except PatternFault (List ClassItem × List Token)
  | 0, _, _ => .error .malformed
  | _ + 1, _, [] => .error .malformed
  | bound + 1, members, token :: rest => do
    Token.check rest
    if token = .plain ']' && !members.isEmpty then return (members, rest)
    let (low, rest) ← readMember engine token rest
    match ← Token.dropIf '-' rest with
    | none => readMembers engine bound (members ++ [low]) rest
    | some [] => throw .malformed
    | some (token :: rest) =>
      Token.check rest
      if token = .plain ']' then return (members ++ [low, .single 45], rest)
      let (high, rest) ← readMember engine token rest
      let range ← rangeOf low high
      readMembers engine bound (members ++ [range]) rest

/-! ## Repetition -/

/-- A count of a repetition, if one is written. -/
def readCount? (digits : List Char) : Except PatternFault (Option Nat) := do
  if digits.isEmpty then return none
  match readDigits digits with
  | .error _ => throw (.tooManyDigits digits.length)
  | .ok count => if count ≥ repeatLimit then throw .repeatTooLarge else return some count

/-- Reads the counts of a repetition after the opening brace.  Without a result the brace stands
for itself. -/
def readCounts? (tokens : List Token) :
    Except PatternFault (Option (Nat × Option Nat × List Token)) := do
  if Token.head? (· == '}') tokens |>.isSome then return none
  let (low, rest) ← Token.takeWhile Char.isDigit tokens.length tokens
  let (high, rest) ← match ← Token.dropIf ',' rest with
    | some after => Token.takeWhile Char.isDigit after.length after
    | none => pure (low, rest)
  match ← Token.dropIf '}' rest with
  | none => return none
  | some rest =>
    let least? ← readCount? low
    let most? ← readCount? high
    let least := least?.getD 0
    if most?.any (· < least) then throw .malformed
    return some (least, most?, rest)

namespace Reader

/-- Repeats the latest item; a mark behind the counts chooses the order of the attempts. -/
def repeatLast (reader : Reader) (least : Nat) (most : Option Nat) (tokens : List Token) :
    Except PatternFault Reader := do
  match reader.level.items with
  | [] => throw .malformed
  | item :: items =>
    if item.shape != .other then throw .malformed
    let (greed, rest) ← match ← Token.dropIf '?' tokens with
      | some rest => pure (Greed.lazy, rest)
      | none => match ← Token.dropIf '+' tokens with
        | some rest => pure (Greed.possessive, rest)
        | none => pure (Greed.greedy, tokens)
    let repetition : Item := ⟨.repeated greed least most item.pattern, .repetition⟩
    return { reader with
      tokens := rest
      level := { reader.level with items := repetition :: items }
      faulty := reader.faulty || reader.level.flags.template }

/-- Reads a repetition mark, whose token has been dropped. -/
def readRepetition (reader : Reader) (mark : Char) : Except PatternFault Reader := do
  match mark with
  | '?' => reader.repeatLast 0 (some 1) reader.tokens
  | '*' => reader.repeatLast 0 none reader.tokens
  | '+' => reader.repeatLast 1 none reader.tokens
  | _ => match ← readCounts? reader.tokens with
    | some (least, most, rest) => reader.repeatLast least most rest
    | none => return reader.pushPoint mark.toNat

/-! ## Groups -/

/-- Opens a parenthesis. -/
def pushFrame (reader : Reader) (opening : Opening) (inner : Level) : Reader :=
  { reader with
    frames := ⟨opening, reader.level⟩ :: reader.frames
    level := { inner with finished := [], items := [] } }

/-- Opens a capturing group, which may have a name of its own. -/
def openCapture (reader : Reader) (name? : Option String) : Except PatternFault Reader := do
  let index := reader.groupCount
  let names ← match name? with
    | some name =>
      if (reader.names.lookup name).isSome then throw .malformed
      else pure ((name, index) :: reader.names)
    | none => pure reader.names
  let opened := { reader with widths := reader.widths ++ [none], names }
  return opened.pushFrame (.capture index) reader.level

/-- Opens an assertion. -/
def openLook (reader : Reader) (isAhead negated : Bool) : Reader :=
  let outermost := !isAhead && reader.lookbehindGroups.isNone
  let opened := reader.pushFrame (.look isAhead negated outermost) reader.level
  if outermost then { opened with lookbehindGroups := some reader.groupCount } else opened

/-- The group that a condition names. -/
def conditionIndex (reader : Reader) (name : String) : Except PatternFault Nat :=
  if isIdentifier name then
    match reader.names.lookup name with
    | some index => .ok index
    | none => .error .malformed
  else
    match readInteger name with
    | .ok value =>
      if value ≤ 0 || value ≥ groupLimit then .error .malformed else .ok value.toNat
    | .error _ => .error .malformed

/-- Opens a condition. -/
def openCondition (reader : Reader) : Except PatternFault Reader := do
  let (name, rest) ← Token.takeName ')' reader.tokens
  let index ← reader.conditionIndex name
  reader.checkLookbehind index
  let opened := { reader with tokens := rest, conditions := index :: reader.conditions }
  return opened.pushFrame (.condition index none) reader.level

/-- Reads what follows `(?P`: a named group or a reference by name. -/
def readNamed (reader : Reader) : Except PatternFault Reader := do
  match ← Token.dropIf '<' reader.tokens with
  | some rest =>
    let (name, rest) ← Token.takeName '>' rest
    if !isIdentifier name then throw .malformed
    (reader.withTokens rest).openCapture (some name)
  | none => match ← Token.dropIf '=' reader.tokens with
    | some rest =>
      let (name, rest) ← Token.takeName ')' rest
      match reader.names.lookup name with
      | some index => (reader.withTokens rest).pushReference index
      | none => throw .malformed
    | none => throw .malformed

/-- Drops a comment up to its closing parenthesis. -/
def skipComment : List Token → Except PatternFault (List Token)
  | [] => .error .malformed
  | token :: rest => do
    Token.check rest
    if token = .plain ')' then return rest else skipComment rest

/-- Reads a group of flags. -/
def readFlagGroup (reader : Reader) (first : Char) : Except PatternFault Reader := do
  match ← readFlags first reader.tokens with
  | (.whole added, rest) =>
    let isAtStart := reader.frames.isEmpty && reader.level.finished.isEmpty
      && reader.level.items.isEmpty
    if !isAtStart then throw .malformed
    let flags := added.foldl (·.set true ·) reader.flags
    return { reader with
      tokens := rest, flags
      level := { reader.level with flags, verbose := flags.verbose } }
  | (.scoped added removed, rest) =>
    let inner := { reader.level with
      flags := reader.level.flags.combine added removed
      verbose := (reader.level.verbose || added.contains 'x') && !removed.contains 'x' }
    return (reader.withTokens rest).pushFrame .plain inner

/-- Reads what follows `(?`, given the next token, which has been dropped. -/
def readExtension (reader : Reader) : Token → Except PatternFault Reader
  | .plain 'P' => reader.readNamed
  | .plain ':' => .ok (reader.pushFrame .plain reader.level)
  | .plain '#' => do return { reader with tokens := ← skipComment reader.tokens }
  | .plain '=' => .ok (reader.openLook true false)
  | .plain '!' => .ok (reader.openLook true true)
  | .plain '>' => .ok (reader.pushFrame .atomic reader.level)
  | .plain '(' => reader.openCondition
  | .plain '<' => do
    let rest := reader.tokens.tail
    Token.check rest
    let dropped := reader.withTokens rest
    match reader.tokens with
    | .plain '=' :: _ => return dropped.openLook false false
    | .plain '!' :: _ => return dropped.openLook false true
    | _ => throw .malformed
  | .plain char =>
    if Flags.isLetter char || char == '-' then reader.readFlagGroup char else .error .malformed
  | _ => .error .malformed

/-- Reads an opening parenthesis, which has been dropped. -/
def readOpening (reader : Reader) : Except PatternFault Reader := do
  match ← Token.dropIf '?' reader.tokens with
  | none => reader.openCapture none
  | some [] => throw .malformed
  | some (token :: rest) =>
    Token.check rest
    (reader.withTokens rest).readExtension token

/-- Closes the top frame: its parenthesis becomes an item of the level around it. -/
def close (reader : Reader) (frame : Frame) (frames : List Frame) : Reader :=
  let inner := reader.level
  let closed := { reader with level := frame.outer, frames }
  match frame.opening with
  | .capture index =>
    let widths := reader.widths.set (index - 1) (some (reader.widthOf inner.whole))
    { closed with widths }.push (.group index inner.whole)
  | .plain => closed.push inner.whole
  | .atomic => closed.push (.atomic inner.whole)
  | .look true negated _ => closed.push (.assertion .ahead negated inner.whole)
  | .look false negated outermost =>
    let fixed? := (reader.widthOf inner.whole).fixed?
    let ended := { closed with
      lookbehindGroups := if outermost then none else reader.lookbehindGroups
      faulty := reader.faulty || fixed?.isNone }
    ended.push (.assertion (.behind (fixed?.getD 0)) negated inner.whole)
  | .condition index none => closed.push (.conditional index inner.current .nothing)
  | .condition index (some present) => closed.push (.conditional index present inner.current)

/-- Ends an alternative.  A condition has two parts at most. -/
def nextAlternative (reader : Reader) : Except PatternFault Reader := do
  let level := reader.level
  match reader.frames with
  | ⟨.condition index none, outer⟩ :: frames =>
    return { reader with
      level := { level with items := [] }
      frames := ⟨.condition index (some level.current), outer⟩ :: frames }
  | ⟨.condition _ (some _), _⟩ :: _ => throw .malformed
  | frames =>
    return { reader with
      level := { level with
        finished := level.current :: level.finished
        items := []
        verbose := if frames.isEmpty then reader.flags.verbose else level.verbose } }

/-- Drops a comment up to the end of its line. -/
def skipLine : List Token → Except PatternFault (List Token)
  | [] => .ok []
  | token :: rest => do
    Token.check rest
    if token = .plain '\n' then return rest else skipLine rest

/-! ## The whole text -/

/-- Whether a character is skipped where a pattern may be laid out freely. -/
def isLayout (char : Char) : Bool :=
  isPlainBlank char

/-- Reads the first token, which has been dropped, and what belongs to it. -/
def step (engine : Engine) (reader : Reader) : Token → Except PatternFault Reader
  | .dangling => .error .malformed
  | .escaped char => reader.readEscape engine char
  | .plain char =>
    if reader.level.verbose && isLayout char then .ok reader
    else if reader.level.verbose && char == '#' then do
      return { reader with tokens := ← skipLine reader.tokens }
    else match char with
    | '[' => do
      let negated? ← Token.dropIf '^' reader.tokens
      let tokens := negated?.getD reader.tokens
      let (members, rest) ← readMembers engine (tokens.length + 1) [] tokens
      return (reader.withTokens rest).pushClass negated?.isSome members
    | '.' =>
      .ok (reader.push (.oneOf (if reader.level.flags.dotAll then .anything else .anythingButFeed)))
    | '^' =>
      let place := if reader.level.flags.multiline then .lineStart else .textStart
      .ok (reader.push (.place place) .anchor)
    | '$' =>
      let place := if reader.level.flags.multiline then .lineEnd else .lastLineEnd
      .ok (reader.push (.place place) .anchor)
    | '(' => reader.readOpening
    | '|' => reader.nextAlternative
    | '*' | '+' | '?' | '{' => reader.readRepetition char
    | _ => .ok (reader.pushPoint char.toNat)

/-- Reads all tokens, or as many as the bound allows, and stops at a closing parenthesis without
an opening one. -/
def runAll (engine : Engine) : Nat → Reader → Except PatternFault Reader
  | 0, reader => .ok reader
  | bound + 1, reader =>
    match reader.tokens, reader.frames with
    | [], _ => .ok reader
    | .plain ')' :: rest, frame :: frames => do
      Token.check rest
      runAll engine bound ((reader.withTokens rest).close frame frames)
    | .plain ')' :: _, [] => .ok reader
    | token :: rest, _ => do
      Token.check rest
      runAll engine bound (← (reader.withTokens rest).step engine token)

end Reader

/-- A pattern with the number of its groups and the names of some. -/
structure Compiled where
  pattern : Pattern
  groupCount : Nat
  names : List (String × Nat)

/-- The pattern that a text writes. -/
def read (engine : Engine) (text : String) : Except PatternFault Compiled := do
  if engine.exhausts text then throw .nestedTooDeep
  let tokens := Token.ofChars text.toList
  Token.check tokens
  let reader ← Reader.runAll engine (tokens.length + 1) { tokens }
  if !reader.frames.isEmpty then throw .malformed
  if reader.flags.ascii && reader.flags.unicode then throw .incompatibleFlags
  if !reader.tokens.isEmpty then throw .malformed
  if reader.conditions.any (· ≥ reader.groupCount) then throw .malformed
  if reader.faulty then throw .malformed
  return {
    pattern := reader.level.whole, groupCount := reader.widths.length, names := reader.names }

end LineEditor.Pattern

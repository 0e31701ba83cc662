import LineEditor.Pattern.Basic

/-!
# Matching

A backtracking matcher.  The state of an attempt is a `Spot`: the place in the
text and the texts that the groups have captured so far.  `Pattern.run` tries
the ways in which a pattern can match from a spot, in order, and hands each
resulting spot to a continuation; the first way on which the continuation
succeeds is the answer.  Because captured texts are part of the spot, a way that
fails leaves no trace.

A repetition makes its required rounds first.  After these, a round may only
start at another place than the optional round before it, so that a body that
matches nothing is not repeated for ever; this bounds the optional rounds by the
number of characters left.
-/

set_option autoImplicit false

namespace LineEditor.Pattern

/-- A place in a text: the characters before it, the nearest first, and those after it. -/
structure Cursor where
  offset : Nat
  before : List Char
  after : List Char
  deriving DecidableEq

/-- The start of a text. -/
def Cursor.ofText (text : String) : Cursor :=
  ⟨0, [], text.toList⟩

/-- The place behind the next character. -/
def Cursor.next? (cursor : Cursor) : Option (Char × Cursor) :=
  match cursor.after with
  | [] => none
  | char :: rest => some (char, ⟨cursor.offset + 1, char :: cursor.before, rest⟩)

/-- The place a number of characters back. -/
def Cursor.back? (cursor : Cursor) : Nat → Option Cursor
  | 0 => some cursor
  | count + 1 =>
    match cursor.before with
    | [] => none
    | char :: rest => Cursor.back? ⟨cursor.offset - 1, rest, char :: cursor.after⟩ count

/-- The characters between two places of one text. -/
def Cursor.textTo (start finish : Cursor) : List Char :=
  start.after.take (finish.offset - start.offset)

/-- The state of an attempt: a place and the captured texts, the latest first. -/
structure Spot where
  cursor : Cursor
  captures : List (Nat × List Char)
  deriving DecidableEq

/-- The text that a group has captured last. -/
def Spot.captured? (spot : Spot) (index : Nat) : Option (List Char) :=
  spot.captures.lookup index

/-- What remains to be matched after a spot. -/
abbrev Continuation := Spot → Option Spot

/-- A way of matching: the spots reached from a spot are handed on in order. -/
abbrev Step := Spot → Continuation → Option Spot

/-- Whether an anchor holds at a place. -/
def Anchor.holds (anchor : Anchor) (cursor : Cursor) : Bool :=
  match anchor with
  | .textStart => cursor.before.isEmpty
  | .lineStart => cursor.before.isEmpty || cursor.before.head? == some '\n'
  | .textEnd => cursor.after.isEmpty
  | .lastLineEnd => cursor.after.isEmpty || cursor.after == ['\n']
  | .lineEnd => cursor.after.isEmpty || cursor.after.head? == some '\n'
  | .wordEdge asciiOnly negated =>
    let isWord (char? : Option Char) := char?.any (Category.word.holds asciiOnly)
    !(cursor.before.isEmpty && cursor.after.isEmpty) &&
      (isWord cursor.before.head? != isWord cursor.after.head?) != negated

/-- Matches one character. -/
def stepChar (test : CharClass) : Step := fun spot proceed =>
  match spot.cursor.next? with
  | some (char, cursor) =>
    if test.accepts char then proceed { spot with cursor } else none
  | none => none

/-- The place behind the given characters, if they stand next up to folding. -/
def Cursor.skip? (folding : Folding) (cursor : Cursor) : List Char → Option Cursor
  | [] => some cursor
  | wanted :: rest =>
    match cursor.next? with
    | some (char, next) =>
      if folding.fold char.toNat == folding.fold wanted.toNat then next.skip? folding rest
      else none
    | none => none

/-! ## Repetition -/

/-- Makes the required rounds of a repetition. -/
def requiredRounds (round : Step) : Nat → Step
  | 0 => fun spot proceed => proceed spot
  | count + 1 => fun spot proceed =>
    round spot fun next => requiredRounds round count next proceed

/-- Whether another optional round may start here: rounds are left, and the last optional round
did not start at this very place. -/
def mayRepeat (most : Option Nat) (last : Option Nat) (spot : Spot) : Bool :=
  most != some 0 && last != some spot.cursor.offset

/-- Makes optional rounds, as many as possible first. -/
def greedyRounds (round : Step) : Nat → Option Nat → Option Nat → Step
  | 0, _, _ => fun spot proceed => proceed spot
  | bound + 1, most, last => fun spot proceed =>
    if mayRepeat most last spot then
      (round spot fun next =>
        greedyRounds round bound (most.map (· - 1)) (some spot.cursor.offset) next proceed)
        <|> proceed spot
    else proceed spot

/-- Makes optional rounds, as few as possible first. -/
def lazyRounds (round : Step) : Nat → Option Nat → Option Nat → Step
  | 0, _, _ => fun spot proceed => proceed spot
  | bound + 1, most, last => fun spot proceed =>
    proceed spot <|>
      if mayRepeat most last spot then
        round spot fun next =>
          lazyRounds round bound (most.map (· - 1)) (some spot.cursor.offset) next proceed
      else none

/-- Makes optional rounds as long as they succeed, each in its first way only. -/
def possessiveRounds (round : Step) : Nat → Option Nat → Option Nat → Spot → Spot
  | 0, _, _ => fun spot => spot
  | bound + 1, most, last => fun spot =>
    if mayRepeat most last spot then
      match round spot some with
      | some next =>
        possessiveRounds round bound (most.map (· - 1)) (some spot.cursor.offset) next
      | none => spot
    else spot

/-- Makes the required rounds, each in its first way only. -/
def firstRounds (round : Step) : Nat → Spot → Option Spot
  | 0, spot => some spot
  | count + 1, spot => (round spot some).bind (firstRounds round count)

/-- A repetition of a way of matching. -/
def repeatStep (greed : Greed) (least : Nat) (most : Option Nat) (round : Step) : Step :=
  fun spot proceed =>
    let left := most.map (· - least)
    match greed with
    | .greedy => requiredRounds round least spot fun next =>
      greedyRounds round (next.cursor.after.length + 2) left none next proceed
    | .lazy => requiredRounds round least spot fun next =>
      lazyRounds round (next.cursor.after.length + 2) left none next proceed
    | .possessive => (firstRounds round least spot).bind fun next =>
      proceed (possessiveRounds round (next.cursor.after.length + 2) left none next)

/-! ## Patterns -/

/-- The ways in which a pattern matches from a spot. -/
def run : Pattern → Step
  | .nothing => fun spot proceed => proceed spot
  | .oneOf charClass => stepChar charClass
  | .place anchor => fun spot proceed =>
    if anchor.holds spot.cursor then proceed spot else none
  | .sequence first second => fun spot proceed =>
    first.run spot fun next => second.run next proceed
  | .either first second => fun spot proceed =>
    first.run spot proceed <|> second.run spot proceed
  | .repeated greed least most body => repeatStep greed least most fun spot proceed =>
    body.run spot proceed
  | .group index body => fun spot proceed =>
    body.run spot fun next =>
      proceed { next with captures := (index, spot.cursor.textTo next.cursor) :: next.captures }
  | .atomic body => fun spot proceed => (body.run spot some).bind proceed
  | .reference index folding => fun spot proceed =>
    ((spot.captured? index).bind (spot.cursor.skip? folding)).bind fun cursor =>
      proceed { spot with cursor }
  | .assertion direction negated body => fun spot proceed =>
    let start := match direction with
      | .ahead => some spot.cursor
      | .behind width => spot.cursor.back? width
    let found := start.bind fun cursor => body.run { spot with cursor } some
    match found, negated with
    | some inner, false => proceed { spot with captures := inner.captures }
    | none, true => proceed spot
    | _, _ => none
  | .conditional index present absent => fun spot proceed =>
    if (spot.captured? index).isSome then present.run spot proceed
    else absent.run spot proceed

/-! ## Searching -/

/-- What a pattern has matched: the places where the match starts and ends and what the groups
captured. -/
structure Match where
  start : Cursor
  finish : Cursor
  captures : List (Nat × List Char)
  deriving DecidableEq

/-- The match that starts at a place.  With `mustAdvance` an empty match does not count. -/
def matchAt (pattern : Pattern) (mustAdvance : Bool) (cursor : Cursor) : Option Match :=
  (pattern.run ⟨cursor, []⟩ fun spot =>
    if mustAdvance && spot.cursor.offset == cursor.offset then none else some spot).map
    fun spot => ⟨cursor, spot.cursor, spot.captures⟩

/-- The first match at a place or after it, where `before` and `offset` describe the place and the
list is the text after it.  Only at the place itself an empty match may be ruled out. -/
def searchFrom (pattern : Pattern) (mustAdvance : Bool) (offset : Nat)
    (before : List Char) : List Char → Option Match
  | [] => pattern.matchAt mustAdvance ⟨offset, before, []⟩
  | char :: rest =>
    pattern.matchAt mustAdvance ⟨offset, before, char :: rest⟩ <|>
      pattern.searchFrom false (offset + 1) (char :: before) rest

/-- The first match of a pattern in a text. -/
def search (pattern : Pattern) (text : String) : Option Match :=
  pattern.searchFrom false 0 [] text.toList

end LineEditor.Pattern

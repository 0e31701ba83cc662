import LineEditor.Pattern.CharClass

/-!
# Patterns

The patterns that searches and substitutions use, as abstract terms: tests on
one character, sequences, ordered alternatives, repetitions of three kinds,
numbered groups, references back to them, assertions about what stands before or
after, and atomic groups, which are never entered again once they have matched.

`Pattern.width` bounds the number of characters a pattern can match; an
assertion about what stands before must have a single width.
-/

set_option autoImplicit false

namespace LineEditor

namespace Pattern

/-- Conditions on a place between two characters. -/
inductive Anchor where
  | textStart
  | lineStart
  | textEnd
  | lastLineEnd
  | lineEnd
  | wordEdge (asciiOnly : Bool) (negated : Bool)
  deriving DecidableEq

/-- The order in which the lengths of a repetition are tried: longest first, shortest first, or
the longest only. -/
inductive Greed where
  | greedy
  | lazy
  | possessive
  deriving DecidableEq

/-- Where an assertion looks: at what follows, or at the given number of characters before. -/
inductive Direction where
  | ahead
  | behind (width : Nat)
  deriving DecidableEq

end Pattern

open Pattern in
/-- A pattern. -/
inductive Pattern where
  | nothing
  | oneOf (charClass : CharClass)
  | place (anchor : Anchor)
  | sequence (first second : Pattern)
  | either (first second : Pattern)
  | repeated (greed : Greed) (least : Nat) (most : Option Nat) (body : Pattern)
  | group (index : Nat) (body : Pattern)
  | atomic (body : Pattern)
  | reference (index : Nat) (folding : Folding)
  | assertion (direction : Direction) (negated : Bool) (body : Pattern)
  | conditional (index : Nat) (present absent : Pattern)
  deriving DecidableEq

namespace Pattern

/-- The pattern that matches the given ones one after the other. -/
def ofSequence : List Pattern → Pattern
  | [] => .nothing
  | [only] => only
  | first :: rest => .sequence first (ofSequence rest)

/-- The pattern that tries the given ones in order. -/
def ofAlternatives : List Pattern → Pattern
  | [] => .nothing
  | [only] => only
  | first :: rest => .either first (ofAlternatives rest)

/-! ## Widths -/

/-- The least and the greatest number of characters; nothing stands for no bound. -/
structure Width where
  least : Nat
  most : Option Nat
  deriving DecidableEq

namespace Width

/-- The width of a sequence. -/
def add (first second : Width) : Width :=
  { least := first.least + second.least
    most := first.most.bind fun a => second.most.map (a + ·) }

/-- The width of a choice. -/
def join (first second : Width) : Width :=
  { least := min first.least second.least
    most := first.most.bind fun a => second.most.map (max a ·) }

/-- The width of a repetition. -/
def repeated (body : Width) (least : Nat) (most : Option Nat) : Width :=
  { least := body.least * least
    most := if body.most = some 0 then some 0 else
      body.most.bind fun a => most.map (a * ·) }

/-- The width as a single number, if it is one that an assertion may look back. -/
def fixed? (width : Width) : Option Nat :=
  if width.most = some width.least ∧ width.least < 4294967296 then some width.least else none

end Width

/-- The width of a pattern, given the widths of the groups it may refer to. -/
def width (groups : Nat → Width) : Pattern → Width
  | .nothing | .place _ | .assertion _ _ _ => ⟨0, some 0⟩
  | .oneOf _ => ⟨1, some 1⟩
  | .sequence first second => (first.width groups).add (second.width groups)
  | .either first second => (first.width groups).join (second.width groups)
  | .repeated _ least most body => (body.width groups).repeated least most
  | .group _ body | .atomic body => body.width groups
  | .reference index _ => groups index
  | .conditional _ present absent => (present.width groups).join (absent.width groups)

end Pattern

end LineEditor

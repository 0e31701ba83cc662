import LineEditor.Text.Blank
import LineEditor.Text.Case
import LineEditor.Text.Digit
import LineEditor.Text.Letter

/-!
# Tests on one character

What a pattern asks of a single character: a set given by code points, ranges
and named categories, perhaps negated, perhaps regardless of letter case
(`CharClass.accepts`).

When case is disregarded, the character is first folded to lower case, and a
member of the set stands for all code points that fold to the same thing.  A
class in which nothing has a case is tested on the character itself
(`CharClass.ofItems`).
-/

set_option autoImplicit false

namespace LineEditor.Pattern

open LineEditor.Text

/-- The named categories of characters. -/
inductive Category where
  | digit
  | space
  | word
  deriving DecidableEq

/-- How letter case is treated: as it stands, disregarded in ASCII, or disregarded everywhere. -/
inductive Folding where
  | exact
  | plain
  | full
  deriving DecidableEq

/-- One member of a class.  Points are numbers, as a class may name code points that are no
characters. -/
inductive ClassItem where
  | single (point : Nat)
  | range (low high : Nat)
  | category (category : Category) (negated : Bool)
  deriving DecidableEq

/-- A test on one character; `asciiOnly` restricts the categories to ASCII. -/
structure CharClass where
  negated : Bool
  items : List ClassItem
  folding : Folding
  asciiOnly : Bool
  deriving DecidableEq

/-- Whether a character belongs to a category. -/
def Category.holds (category : Category) (asciiOnly : Bool) (char : Char) : Bool :=
  (!asciiOnly || char.toNat < 128) &&
    match category with
    | .digit => isDigit char
    | .space => if asciiOnly then isPlainBlank char else isBlank char
    | .word => isWordChar char

namespace Folding

/-- The folded form of a code point. -/
def fold (folding : Folding) (point : Nat) : Nat :=
  match folding with
  | .exact => point
  | .plain => lowerPlain point
  | .full => lowerPoint point

/-- The code points that fold to the same as an already folded one. -/
def variants (folding : Folding) (point : Nat) : List Nat :=
  match folding with
  | .exact => [point]
  | .plain => if 97 ≤ point && point ≤ 122 then [point, point - 32] else [point]
  | .full => caseVariants point

/-- A folded code point together with the folded ones that count as equal to it. -/
def partners (folding : Folding) (point : Nat) : List Nat :=
  match folding with
  | .full => withPartners point
  | _ => [point]

/-- Whether a code point has other forms. -/
def hasCase (folding : Folding) (point : Nat) : Bool :=
  match folding with
  | .exact => false
  | .plain => isCasedPlain point
  | .full => isCased point

end Folding

/-- Whether a folded code point matches a member of a class.  Beyond the basic plane a single
member is compared as it stands. -/
def ClassItem.matchesPoint (item : ClassItem) (folding : Folding) (asciiOnly : Bool)
    (point : Nat) : Bool :=
  match item with
  | .single member =>
    let folded := folding.fold member
    if folded ≥ 0x10000 then point == member else (folding.partners folded).contains point
  | .range low high =>
    (folding.variants point).any fun variant => low ≤ variant && variant ≤ high
  | .category named negated => named.holds asciiOnly (Char.ofNat point) != negated

namespace CharClass

/-- Whether a character passes the test. -/
def accepts (charClass : CharClass) (char : Char) : Bool :=
  let point := charClass.folding.fold char.toNat
  charClass.items.any (·.matchesPoint charClass.folding charClass.asciiOnly point)
    != charClass.negated

/-- Whether a range holds a code point with a case; every range beyond the basic plane counts. -/
def rangeHasCase (folding : Folding) (low high : Nat) : Bool :=
  high ≥ 0x10000 || (List.range (high + 1 - low)).any fun offset => folding.hasCase (low + offset)

/-- Whether a member of a class has a case. -/
def itemHasCase (folding : Folding) : ClassItem → Bool
  | .single point => folding.fold point ≥ 0x10000 || folding.hasCase point
  | .range low high => rangeHasCase folding low high
  | .category _ _ => false

/-- The test for one code point, or for all others. -/
def ofPoint (negated : Bool) (folding : Folding) (asciiOnly : Bool) (point : Nat) : CharClass :=
  if folding.hasCase point then
    { negated, items := [.single (folding.fold point)], folding, asciiOnly }
  else
    { negated, items := [.single point], folding := .exact, asciiOnly }

/-- The test for a list of members.  A list that names a single code point is the test for it. -/
def ofItems (negated : Bool) (folding : Folding) (asciiOnly : Bool) (items : List ClassItem) :
    CharClass :=
  match items.eraseDups with
  | [.single point] => ofPoint negated folding asciiOnly point
  | members =>
    { negated, items := members, asciiOnly
      folding :=
        if folding != .exact && members.any (itemHasCase folding) then folding else .exact }

/-- The test that every character passes. -/
def anything : CharClass :=
  { negated := true, items := [], folding := .exact, asciiOnly := false }

/-- The test that every character but the line feed passes. -/
def anythingButFeed : CharClass :=
  { negated := true, items := [.single 10], folding := .exact, asciiOnly := false }

end CharClass

end LineEditor.Pattern

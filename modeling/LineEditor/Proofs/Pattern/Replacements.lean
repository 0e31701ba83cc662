import LineEditor.Pattern.Replacement
import Mathlib.Data.List.Chain

/-!
# What replacements mean

A replacement is a list of parts (`Part`): the matched text, the text of one of
nine groups, or a character that stands for itself.  `Part.ofChars?` reads them
from left to right, as a replacement is documented to be read.

The template of a replacement consists of the templates of its parts
(`ofChars_expandChars`), and each of these is read back as the piece that is
meant (`readPieces_part`), but for one case: the number of a group takes in a
digit that comes next to it.  In the replacement that digit stands for itself; in
the template it makes a number of two digits, or the code of a character
(`readPiece_merged`).

So a replacement stands for the text that it is documented to stand for if in it
no number of a group is next to a digit, and else it need not.  This goes for
every replacement in which no backslash is the last character and none is next
to a zero or to a digit of another script (`expands_exactly`).
-/

set_option autoImplicit false

namespace LineEditor.Pattern

open LineEditor.Text

/-! ## Parts -/

/-- A part of a replacement. -/
inductive Part where
  | whole
  | group (index : Fin 9)
  | literal (char : Char)
  deriving DecidableEq

/-- The digit that is the number of a group. -/
def groupDigit (index : Fin 9) : Char :=
  Char.ofNat (index.val + 49)

/-- The group whose number a character is. -/
def groupOf? (char : Char) : Option (Fin 9) :=
  if digit : 49 ≤ char.toNat ∧ char.toNat ≤ 57 then some ⟨char.toNat - 49, by omega⟩ else none

namespace Part

/-- What a character behind a backslash stands for.  Zero is the number of no group, and digits
of other scripts are not for use. -/
def escaped? (char : Char) : Option Part :=
  match groupOf? char with
  | some index => some (.group index)
  | none => if isDigitLike char then none else some (.literal char)

/-- The parts of a replacement. -/
def ofChars? : List Char → Option (List Part)
  | [] => some []
  | ['\\'] => none
  | '&' :: rest => (ofChars? rest).map (.whole :: ·)
  | '\\' :: char :: rest => (escaped? char).bind fun part => (ofChars? rest).map (part :: ·)
  | char :: rest => (ofChars? rest).map (.literal char :: ·)

/-- The text that a part stands for.  A group that took no part in the match is empty. -/
def text (found : Match) : Part → List Char
  | .whole => found.start.textTo found.finish
  | .group index => (found.captures.lookup (index.val + 1)).getD []
  | .literal char => [char]

/-- The pattern has the group that a part refers to. -/
def Within (groupCount : Nat) : Part → Prop
  | .group index => index.val + 1 ≤ groupCount
  | _ => True

/-- A part is the number of a group. -/
def isGroup : Part → Bool
  | .group _ => true
  | _ => false

/-- A part is a digit that stands for itself. -/
def isDigit : Part → Bool
  | .literal char => char.isDigit
  | _ => false

/-- Two parts are not the number of a group and a digit. -/
def Apart (first second : Part) : Prop :=
  ¬(first.isGroup ∧ second.isDigit)

instance (first second : Part) : Decidable (Apart first second) :=
  inferInstanceAs (Decidable ¬_)

/-- The tokens of a part in a template. -/
def tokens : Part → List Token
  | .whole => [.escaped 'g', .plain '<', .plain '0', .plain '>']
  | .group index => [.escaped (groupDigit index)]
  | .literal char => if char = '\\' then [.escaped '\\'] else [.plain char]

/-- The piece of a template that a part is to be. -/
def piece : Part → Piece
  | .whole => .group 0
  | .group index => .group (index.val + 1)
  | .literal char => .literal [char]

end Part

/-! ## Templates of replacements -/

theorem groupOf?_eq_some {char : Char} {index : Fin 9} (number : groupOf? char = some index) :
    char = groupDigit index := by
  rw [groupOf?] at number
  split at number
  · rename_i digit
    obtain rfl := Option.some.inj number
    have code : char.toNat - 49 + 49 = char.toNat := by omega
    rw [groupDigit]
    dsimp only
    rw [code, Char.ofNat_toNat]
  · cases number

theorem isDigitLike_groupDigit : ∀ index : Fin 9, isDigitLike (groupDigit index) = true := by
  decide

theorem ofChars_escaped (char : Char) (rest : List Char) :
    Token.ofChars ('\\' :: char :: rest) = .escaped char :: Token.ofChars rest := by
  rw [Token.ofChars]

theorem ofChars_plain {char : Char} (plain : char ≠ '\\') (rest : List Char) :
    Token.ofChars (char :: rest) = .plain char :: Token.ofChars rest := by
  rw [Token.ofChars]
  · exact fun same => absurd same plain
  · exact fun _ _ same => absurd same plain

/-- What a character behind a backslash is expanded to is the template of the part it stands
for. -/
theorem ofChars_expanded {char : Char} {part : Part} (escaped : Part.escaped? char = some part)
    (rest : List Char) :
    Token.ofChars
        ((if isDigitLike char then ['\\', char] else if char = '\\' then ['\\', '\\'] else [char])
          ++ rest) =
      part.tokens ++ Token.ofChars rest := by
  rw [Part.escaped?] at escaped
  split at escaped
  · rename_i index number
    obtain rfl := Option.some.inj escaped
    rw [groupOf?_eq_some number, if_pos (isDigitLike_groupDigit index)]
    exact ofChars_escaped _ rest
  · split at escaped
    · cases escaped
    · rename_i number other
      obtain rfl := Option.some.inj escaped
      rw [if_neg other, Part.tokens]
      split
      · exact ofChars_escaped '\\' rest
      · exact ofChars_plain ‹_› rest

/-- **The template of a replacement consists of the templates of its parts.** -/
theorem ofChars_expandChars {chars : List Char} : ∀ {parts : List Part},
    Part.ofChars? chars = some parts →
      Token.ofChars (expandChars chars) = parts.flatMap Part.tokens := by
  induction chars using Part.ofChars?.induct with
  | case1 =>
      rintro parts read
      obtain rfl := Option.some.inj read
      rfl
  | case2 =>
      rintro parts read
      cases read
  | case3 rest ih =>
      rintro parts read
      rw [Part.ofChars?] at read
      obtain ⟨others, readOthers, rfl⟩ := Option.map_eq_some_iff.mp read
      rw [expandChars, List.flatMap_cons, ← ih readOthers]
      rfl
  | case4 char rest ih =>
      rintro parts read
      rw [Part.ofChars?] at read
      obtain ⟨part, escaped, readRest⟩ := Option.bind_eq_some_iff.mp read
      obtain ⟨others, readOthers, rfl⟩ := Option.map_eq_some_iff.mp readRest
      rw [expandChars, List.flatMap_cons, ← ih readOthers]
      exact ofChars_expanded escaped (expandChars rest)
  | case5 char rest ending whole behind ih =>
      rintro parts read
      have plain : char ≠ '\\' := by
        rintro rfl
        cases rest with
        | nil => exact ending rfl rfl
        | cons next others => exact behind next others rfl rfl
      have template : expandChars (char :: rest) = char :: expandChars rest := by
        rw [expandChars]
        · exact ending
        · exact whole
        · exact behind
      rw [Part.ofChars?] at read
      · obtain ⟨others, readOthers, rfl⟩ := Option.map_eq_some_iff.mp read
        rw [template, ofChars_plain plain, List.flatMap_cons, ← ih readOthers, Part.tokens,
          if_neg plain]
        rfl
      · exact ending
      · exact whole
      · exact behind

theorem groupOf?_isSome {char : Char} (digit : char.isDigit) (nonzero : char ≠ '0') :
    (groupOf? char).isSome := by
  have bounds := Char.isDigit_iff_toNat.mp digit
  have other : char.toNat ≠ '0'.toNat := mt Char.toNat_inj.mp nonzero
  rw [groupOf?, dif_pos]
  · rfl
  · have zero : '0'.toNat = 48 := rfl
    have nine : '9'.toNat = 57 := rfl
    omega

theorem escaped?_isSome {char : Char}
    (usual : char ≠ '0' ∧ (isDigitLike char → char.isDigit)) :
    (Part.escaped? char).isSome := by
  rw [Part.escaped?]
  split
  · rfl
  · rename_i other
    rw [if_neg]
    · rfl
    · intro like
      have group := groupOf?_isSome (usual.2 like) usual.1
      rw [other] at group
      cases group

/-- A replacement can be read if a backslash is not the last character of it, and what is next to a
backslash is not a zero or a digit of another script. -/
theorem ofChars?_isSome {chars : List Char} : chars.getLast? ≠ some '\\' →
    (∀ char, ['\\', char] <:+: chars → char ≠ '0' ∧ (isDigitLike char → char.isDigit)) →
      (Part.ofChars? chars).isSome := by
  have shorter : ∀ {char : Char} {rest : List Char}, (char :: rest).getLast? ≠ some '\\' →
      rest.getLast? ≠ some '\\' := by
    intro char rest other last
    rw [List.getLast?_cons, last] at other
    exact other rfl
  induction chars using Part.ofChars?.induct with
  | case1 => exact fun _ _ => rfl
  | case2 => exact fun ending _ => absurd rfl ending
  | case3 rest ih =>
      intro ending usual
      rw [Part.ofChars?, Option.isSome_map]
      exact ih (shorter ending) fun char part => usual char (List.infix_cons part)
  | case4 char rest ih =>
      intro ending usual
      have others := ih (shorter (shorter ending)) fun char part =>
        usual char (List.infix_cons (List.infix_cons part))
      have first := escaped?_isSome (usual char ⟨[], rest, rfl⟩)
      rw [Part.ofChars?]
      obtain ⟨part, first⟩ := Option.isSome_iff_exists.mp first
      rw [first, Option.bind_some, Option.isSome_map]
      exact others
  | case5 char rest ending' whole behind ih =>
      intro ending usual
      rw [Part.ofChars?]
      · rw [Option.isSome_map]
        exact ih (shorter ending) fun char part => usual char (List.infix_cons part)
      · exact ending'
      · exact whole
      · exact behind

/-! ## Reading a template -/

section Reading

variable {compiled : Compiled} {more rest : List Token} {part : Part} {bound : Nat}

theorem check_undangling {tokens : List Token} (ends : .dangling ∉ tokens) :
    Token.check tokens = .ok () := by
  rw [Token.check]
  rintro rfl
  exact ends (List.mem_singleton_self _)

/-- The templates of parts have no backslash at the end. -/
theorem undangling_tokens (part : Part) : .dangling ∉ part.tokens := by
  cases part with
  | whole => decide
  | group index => simp [Part.tokens]
  | literal char =>
      rw [Part.tokens]
      split <;> simp

theorem undangling_parts (parts : List Part) : .dangling ∉ parts.flatMap Part.tokens := by
  simp [undangling_tokens]

/-- Taking at most one character takes the first if it is accepted. -/
theorem takeWhile_one (accept : Char → Bool) {tokens : List Token} (ends : .dangling ∉ tokens) :
    Token.takeWhile accept 1 tokens =
      match Token.head? accept tokens with
      | some char => .ok ([char], tokens.tail)
      | none => .ok ([], tokens) := by
  cases tokens with
  | nil => rfl
  | cons token rest =>
      cases token with
      | plain char =>
          have check := check_undangling (fun member => ends (List.mem_cons_of_mem _ member))
          by_cases accepted : accept char
          · simp only [Token.takeWhile, Token.head?, if_pos accepted, check]
            rfl
          · simp only [Token.takeWhile, Token.head?, if_neg accepted]
      | escaped char => rfl
      | dangling => rfl

/-- The number of a group is a digit, and not zero. -/
theorem groupDigit_digit : ∀ index : Fin 9, (groupDigit index == 'g') = false ∧
    (groupDigit index).isDigit = true ∧ (groupDigit index == '0') = false ∧
    numberIn 10 [groupDigit index] = index.val + 1 := by
  decide

/-- A digit behind a backslash with no digit next to it is the number of a group. -/
theorem readDigits_alone {first : Char} (nonzero : (first == '0') = false)
    (alone : Token.head? Char.isDigit more = none) (ends : .dangling ∉ more) :
    Template.readDigits compiled first more =
      (Template.groupPiece compiled.groupCount (numberIn 10 [first])).map (·, more) := by
  rw [Template.readDigits, nonzero, takeWhile_one _ ends, alone]
  cases group : Template.groupPiece compiled.groupCount (numberIn 10 [first]) <;>
    simp [bind, Except.bind, Except.map, pure, Except.pure, group]

/-- A digit behind a backslash takes in the digit next to it: the two are the number of a group, or
with a third one the code of a character. -/
theorem readDigits_merged {first second : Char} (nonzero : (first == '0') = false)
    (digit : second.isDigit) (ends : .dangling ∉ more) :
    Template.readDigits compiled first (.plain second :: more) =
      match if isOctal first && isOctal second then Token.head? isOctal more else none with
      | some third =>
        if numberIn 8 [first, second, third] > 0o377 then .error .malformed
        else .ok (Template.bytePiece (numberIn 8 [first, second, third]), more.tail)
      | none =>
        (Template.groupPiece compiled.groupCount (numberIn 10 [first, second])).map (·, more) := by
  have endsBoth : .dangling ∉ Token.plain second :: more := by simpa using ends
  have two : Token.head? Char.isDigit (.plain second :: more) = some second := if_pos digit
  rw [Template.readDigits, nonzero, takeWhile_one _ endsBoth, two]
  by_cases octal : isOctal first && isOctal second
  · cases three : Token.head? isOctal more with
    | some third =>
        simp [bind, Except.bind, pure, Except.pure, throw, throwThe, MonadExceptOf.throw,
          takeWhile_one _ ends, octal, three]
    | none =>
        cases group : Template.groupPiece compiled.groupCount (numberIn 10 [first, second]) <;>
          simp [bind, Except.bind, Except.map, pure, Except.pure, takeWhile_one _ ends, octal,
            three, group]
  · cases group : Template.groupPiece compiled.groupCount (numberIn 10 [first, second]) <;>
      simp [bind, Except.bind, Except.map, pure, Except.pure, octal, group]

/-! ## One part -/

theorem readPiece_digit (compiled : Compiled) (index : Fin 9) (rest : List Token) :
    Template.readPiece compiled (.escaped (groupDigit index)) rest =
      Template.readDigits compiled (groupDigit index) rest := by
  obtain ⟨name, digit, -⟩ := groupDigit_digit index
  simp only [Template.readPiece, name, digit]
  rfl

theorem namedPiece_zero (compiled : Compiled) :
    Template.namedPiece compiled "0" = .ok (.group 0) := by
  have number : isIdentifier "0" = false := by decide +kernel
  have value : readInteger "0" = .ok 0 := by decide +kernel
  simp only [Template.namedPiece, number, value, Template.groupPiece]
  rfl

/-- The matched text is read back from its template. -/
theorem readPiece_whole (compiled : Compiled) (ends : .dangling ∉ more) :
    Template.readPiece compiled (.escaped 'g') (.plain '<' :: .plain '0' :: .plain '>' :: more) =
      .ok (.group 0, more) := by
  have opened : Token.dropIf '<' (.plain '<' :: .plain '0' :: .plain '>' :: more) =
      .ok (some (.plain '0' :: .plain '>' :: more)) := rfl
  have name : Token.takeName '>' (.plain '0' :: .plain '>' :: more) = .ok ("0", more) := by
    have close : Token.takeUntil '>' (.plain '>' :: more) = .ok ([], more) := by
      simp only [Token.takeUntil, check_undangling ends]
      rfl
    rw [Token.takeName, Token.takeUntil, close]
    rfl
  have meant : ('g' == 'g') = true := rfl
  simp only [Template.readPiece, meant, if_true, opened, name, namedPiece_zero, bind, Except.bind]
  rfl

/-- A part is read back as the piece that is meant, if there is such a group and no digit comes next
to its number. -/
theorem readPiece_part (within : part.Within compiled.groupCount)
    (apart : part.isGroup → Token.head? Char.isDigit more = none) (ends : .dangling ∉ more) :
    ∃ token rest, part.tokens = token :: rest ∧
      Template.readPiece compiled token (rest ++ more) = .ok (part.piece, more) := by
  cases part with
  | whole =>
      exact ⟨_, _, rfl, readPiece_whole compiled ends⟩
  | group index =>
      refine ⟨_, _, rfl, ?_⟩
      obtain ⟨-, -, zero, number⟩ := groupDigit_digit index
      have there : Template.groupPiece compiled.groupCount (index.val + 1) =
          .ok (.group (index.val + 1)) := if_neg (Nat.not_lt.mpr within)
      rw [List.nil_append, readPiece_digit, readDigits_alone zero (apart rfl) ends, number, there]
      rfl
  | literal char =>
      rw [Part.tokens]
      split
      · subst char
        exact ⟨_, _, rfl, rfl⟩
      · exact ⟨_, _, rfl, rfl⟩

/-- **The template of a part is read back as the piece that is meant, and reading goes on behind
it.** -/
theorem readPieces_part (bound : Nat) (within : part.Within compiled.groupCount)
    (apart : part.isGroup → Token.head? Char.isDigit more = none) (ends : .dangling ∉ more) :
    Template.readPieces compiled (bound + 1) (part.tokens ++ more) =
      (Template.readPieces compiled bound more).map (part.piece :: ·) := by
  obtain ⟨token, rest, tokens, read⟩ := readPiece_part within apart ends
  have endsAll : .dangling ∉ rest ++ more := by
    have whole := undangling_tokens part
    rw [tokens] at whole
    rw [List.mem_append]
    exact not_or.mpr ⟨fun member => whole (List.mem_cons_of_mem token member), ends⟩
  rw [tokens, List.cons_append, Template.readPieces, check_undangling endsAll]
  simp only [read, bind, Except.bind]
  cases Template.readPieces compiled bound more <;> rfl

/-- The code of the character that a number and digits make, or the number of a group that is not
there, if there are nine. -/
theorem readPiece_merged {index : Fin 9} {second : Char} {piece : Piece} {after : List Token}
    (nine : compiled.groupCount = 9) (digit : second.isDigit) (ends : .dangling ∉ more)
    (read : Template.readPiece compiled (.escaped (groupDigit index)) (.plain second :: more) =
      .ok (piece, after)) :
    ∃ char : Char, char.toNat < 256 ∧ piece = .literal [char] := by
  obtain ⟨-, -, zero, number⟩ := groupDigit_digit index
  rw [readPiece_digit, readDigits_merged zero digit ends] at read
  split at read
  · split at read
    · cases read
    · cases read
      rename_i third _ _
      have small := Nat.mod_lt (numberIn 8 [groupDigit index, second, third])
        (show 256 > 0 by decide)
      refine ⟨_, ?_, rfl⟩
      rw [Char.ofNat, dif_pos (.inl (small.trans (by decide)))]
      exact small
  · have large :=
      calc compiled.groupCount
        _ < 10 * (index.val + 1) := by omega
        _ = 10 * numberIn 10 [groupDigit index] := by rw [number]
        _ ≤ numberIn 10 [groupDigit index, second] := Nat.le_add_right _ _
    rw [Template.groupPiece, if_pos large] at read
    cases read

theorem fill_piece (found : Match) (part : Part) :
    Template.pieceText found part.piece = part.text found := by
  cases part <;> rfl

/-- No digit stands for itself at the start of the template of a part that is none. -/
theorem head?_tokens (other : part.isDigit = false) :
    Token.head? Char.isDigit (part.tokens ++ more) = none := by
  cases part with
  | whole => rfl
  | group index => rfl
  | literal char =>
      rw [Part.tokens]
      split
      · rfl
      · exact if_neg (Bool.eq_false_iff.mp other)

theorem literal_of_isDigit (digit : part.isDigit) :
    ∃ char, part = .literal char ∧ char.isDigit ∧ part.tokens = [.plain char] := by
  cases part with
  | whole => cases digit
  | group index => cases digit
  | literal char =>
      refine ⟨char, rfl, digit, if_neg ?_⟩
      rintro rfl
      cases digit

end Reading

/-! ## Whole replacements -/

/-- The tokens of a replacement are at least as many as its parts. -/
theorem length_parts_le (parts : List Part) :
    parts.length ≤ (parts.flatMap Part.tokens).length := by
  induction parts with
  | nil => exact Nat.le_refl 0
  | cons part rest ih =>
      have some : 0 < part.tokens.length := by
        cases part with
        | whole => decide
        | group index => exact Nat.one_pos
        | literal char =>
            rw [Part.tokens]
            split <;> exact Nat.one_pos
      rw [List.flatMap_cons, List.length_append, List.length_cons]
      omega

variable {compiled : Compiled} {parts : List Part}

theorem head?_parts {part : Part} {rest : List Part}
    (apart : ∀ next ∈ rest.head?, part.Apart next) (group : part.isGroup) :
    Token.head? Char.isDigit (rest.flatMap Part.tokens) = none := by
  cases rest with
  | nil => rfl
  | cons next others =>
      have other : next.isDigit = false :=
        Bool.eq_false_iff.mpr fun digit => apart next rfl ⟨group, digit⟩
      rw [List.flatMap_cons]
      exact head?_tokens other

/-- **The template of a replacement is read as the pieces that are meant**, if in it no number of a
group is next to a digit. -/
theorem readPieces_parts (parts : List Part) : ∀ bound, parts.length ≤ bound →
    parts.IsChain Part.Apart → (∀ part ∈ parts, part.Within compiled.groupCount) →
      Template.readPieces compiled bound (parts.flatMap Part.tokens) =
        .ok (parts.map Part.piece) := by
  induction parts with
  | nil =>
      intro bound enough chain within
      cases bound <;> rfl
  | cons part rest ih =>
      intro bound enough chain within
      obtain ⟨left, rfl⟩ := Nat.exists_eq_add_one_of_ne_zero (Nat.ne_zero_of_lt enough)
      obtain ⟨apart, others⟩ := List.isChain_cons.mp chain
      rw [List.flatMap_cons, readPieces_part left (within part List.mem_cons_self)
        (head?_parts apart) (undangling_parts rest)]
      rw [ih left (Nat.le_of_succ_le_succ enough) others
        fun other member => within other (List.mem_cons_of_mem part member)]
      rfl

/-- A pattern has just the nine groups, and in the match each of them is one character with a code
above those that can be written by three digits. -/
structure Foreign (compiled : Compiled) (found : Match) : Prop where
  nine : compiled.groupCount = 9
  captured : ∀ index : Fin 9, ∃ char : Char, 255 < char.toNat ∧
    found.captures.lookup (index.val + 1) = some [char]

namespace Foreign

variable {found : Match}

theorem within (foreign : Foreign compiled found) (part : Part) :
    part.Within compiled.groupCount := by
  rw [foreign.nine]
  cases part with
  | whole => trivial
  | group index => exact index.isLt
  | literal char => trivial

/-- The number of a group that is next to a digit does not stand for the text of the group. -/
theorem differs_merged (foreign : Foreign compiled found) {index : Fin 9} {second : Char}
    {more : List Token} (digit : second.isDigit) (ends : .dangling ∉ more) {bound : Nat}
    {template : Template} (others : List Char)
    (read : Template.readPieces compiled (bound + 1)
      (.escaped (groupDigit index) :: .plain second :: more) = .ok template) :
    template.fill found ≠ (Part.group index).text found ++ others := by
  have endsBoth : .dangling ∉ Token.plain second :: more := by simpa using ends
  rw [Template.readPieces, check_undangling endsBoth] at read
  cases merged : Template.readPiece compiled (.escaped (groupDigit index))
      (.plain second :: more) with
  | error cause => simp [merged, bind, Except.bind] at read
  | ok result =>
      obtain ⟨piece, after⟩ := result
      obtain ⟨char, small, rfl⟩ := readPiece_merged foreign.nine digit ends merged
      simp only [merged, bind, Except.bind] at read
      cases readRest : Template.readPieces compiled bound after with
      | error cause => simp [readRest] at read
      | ok rest =>
          rw [readRest] at read
          cases read
          obtain ⟨other, large, captured⟩ := foreign.captured index
          intro same
          rw [Template.fill, List.flatMap_cons, Part.text, captured] at same
          obtain rfl : char = other := (List.cons.inj same).1
          omega

/-- If in a replacement the number of a group is next to a digit, there are patterns for which it
does not come to what it is documented to stand for. -/
theorem differs (foreign : Foreign compiled found) (parts : List Part) :
    ∀ bound template, parts.length ≤ bound → ¬parts.IsChain Part.Apart →
      Template.readPieces compiled bound (parts.flatMap Part.tokens) = .ok template →
      template.fill found ≠ parts.flatMap (Part.text found) := by
  induction parts with
  | nil =>
      intro bound template enough close read
      exact absurd .nil close
  | cons part rest ih =>
      intro bound template enough close read
      obtain ⟨left, rfl⟩ := Nat.exists_eq_add_one_of_ne_zero (Nat.ne_zero_of_lt enough)
      rw [List.flatMap_cons] at read ⊢
      -- In front of the first number that is next to a digit the texts agree and can be cancelled.
      by_cases apart : ∀ next ∈ rest.head?, part.Apart next
      · have closeRest : ¬rest.IsChain Part.Apart := fun chain =>
          close (List.isChain_cons.mpr ⟨apart, chain⟩)
        rw [readPieces_part left (foreign.within part) (head?_parts apart) (undangling_parts rest)]
          at read
        cases readRest : Template.readPieces compiled left (rest.flatMap Part.tokens) with
        | error cause =>
            rw [readRest] at read
            cases read
        | ok others =>
            rw [readRest] at read
            cases read
            intro same
            rw [Template.fill, List.flatMap_cons, fill_piece] at same
            exact ih left others (Nat.le_of_succ_le_succ enough) closeRest readRest
              (List.append_cancel_left same)
      · simp only [Part.Apart, not_forall, not_not] at apart
        obtain ⟨next, first, group, digit⟩ := apart
        obtain ⟨char, rfl, isDigit, tokens⟩ := literal_of_isDigit digit
        obtain ⟨others, rfl⟩ := List.head?_eq_some_iff.mp first
        rw [List.flatMap_cons, tokens] at read
        cases part with
        | group index => exact foreign.differs_merged isDigit (undangling_parts others) _ read
        | _ => cases group

end Foreign

/-- What a pattern and a match of it are like can be seen by evaluation. -/
theorem exists_match (pattern text : String) (count : Nat) (whole : List Char)
    (captures : List (Nat × List Char))
    (read : (Pattern.read .usual pattern).toOption.map (·.groupCount) = some count)
    (matched : (Pattern.read .usual pattern).toOption.bind (fun compiled =>
        (compiled.pattern.search text).map fun found =>
          (found.start.textTo found.finish, found.captures)) = some (whole, captures)) :
    ∃ compiled found, Pattern.read .usual pattern = .ok compiled ∧ compiled.groupCount = count ∧
      compiled.pattern.search text = some found ∧ found.start.textTo found.finish = whole ∧
      found.captures = captures := by
  cases outcome : Pattern.read .usual pattern with
  | error cause =>
      rw [outcome] at read
      cases read
  | ok compiled =>
      rw [outcome] at read matched
      obtain ⟨found, search, parts⟩ := Option.map_eq_some_iff.mp matched
      exact ⟨compiled, found, rfl, Option.some.inj read, search, (Prod.mk.inj parts).1,
        (Prod.mk.inj parts).2⟩

/-- There is such a pattern and a match of it. -/
theorem exists_foreign : ∃ pattern text compiled found,
    Pattern.read .usual pattern = .ok compiled ∧ compiled.pattern.search text = some found ∧
      Foreign compiled found := by
  let captures := [(9, ['ι']), (8, ['θ']), (7, ['η']), (6, ['ζ']), (5, ['ε']), (4, ['δ']),
    (3, ['γ']), (2, ['β']), (1, ['α'])]
  obtain ⟨compiled, found, read, nine, search, -, captured⟩ :=
    exists_match "(α)(β)(γ)(δ)(ε)(ζ)(η)(θ)(ι)" "αβγδεζηθι" 9 "αβγδεζηθι".toList captures
      (by decide +kernel) (by decide +kernel)
  have foreign : ∀ index : Fin 9, ∃ char : Char, 255 < char.toNat ∧
      captures.lookup (index.val + 1) = some [char]
    | 0 => ⟨'α', by decide, rfl⟩
    | 1 => ⟨'β', by decide, rfl⟩
    | 2 => ⟨'γ', by decide, rfl⟩
    | 3 => ⟨'δ', by decide, rfl⟩
    | 4 => ⟨'ε', by decide, rfl⟩
    | 5 => ⟨'ζ', by decide, rfl⟩
    | 6 => ⟨'η', by decide, rfl⟩
    | 7 => ⟨'θ', by decide, rfl⟩
    | 8 => ⟨'ι', by decide, rfl⟩
  refine ⟨_, _, compiled, found, read, search, nine, fun index => ?_⟩
  rw [captured]
  exact foreign index

theorem read_expandReplacement {replacement : String} {parts : List Part}
    (readable : Part.ofChars? replacement.toList = some parts) (compiled : Compiled) :
    Template.read compiled (expandReplacement replacement) =
      Template.readPieces compiled (parts.flatMap Part.tokens).length
        (parts.flatMap Part.tokens) := by
  have template : Token.ofChars (expandReplacement replacement).toList =
      parts.flatMap Part.tokens := by
    rw [expandReplacement, String.toList_ofList]
    exact ofChars_expandChars readable
  simp only [Template.read, template, check_undangling (undangling_parts parts)]
  rfl

/-- **A replacement stands for the text that it is documented to stand for if in it no number of a
group is next to a digit, and only then.**  The parts of a replacement are what it is documented
to be read as; it has some if no backslash is the last character of it and what is next to a
backslash is not a zero or a digit of another script. -/
theorem expands_exactly (replacement : String) :
    (replacement.toList.getLast? ≠ some '\\' →
      (∀ char, ['\\', char] <:+: replacement.toList →
        char ≠ '0' ∧ (isDigitLike char → char.isDigit)) →
      ∃ parts, Part.ofChars? replacement.toList = some parts) ∧
    ∀ parts, Part.ofChars? replacement.toList = some parts →
      (parts.IsChain Part.Apart → ∀ (compiled : Compiled) (found : Match),
        (∀ part ∈ parts, part.Within compiled.groupCount) →
          ∃ template, Template.read compiled (expandReplacement replacement) = .ok template ∧
            template.fill found = parts.flatMap (Part.text found)) ∧
      (¬parts.IsChain Part.Apart → ∃ pattern text compiled found,
        Pattern.read .usual pattern = .ok compiled ∧ compiled.pattern.search text = some found ∧
          (∀ part ∈ parts, part.Within compiled.groupCount) ∧
          ∀ template, Template.read compiled (expandReplacement replacement) = .ok template →
            template.fill found ≠ parts.flatMap (Part.text found)) := by
  refine ⟨fun ending usual => Option.isSome_iff_exists.mp (ofChars?_isSome ending usual), ?_⟩
  intro parts readable
  refine ⟨fun chain compiled found within => ?_, fun close => ?_⟩
  · refine ⟨parts.map Part.piece, ?_, ?_⟩
    · rw [read_expandReplacement readable]
      exact readPieces_parts parts _ (length_parts_le parts) chain within
    · rw [Template.fill, List.flatMap_map]
      exact List.flatMap_congr fun part _ => fill_piece found part
  · obtain ⟨pattern, text, compiled, found, read, search, foreign⟩ := exists_foreign
    refine ⟨pattern, text, compiled, found, read, search, fun part _ => foreign.within part, ?_⟩
    intro template expanded
    rw [read_expandReplacement readable] at expanded
    exact foreign.differs parts _ template (length_parts_le parts) close expanded

/-- Two groups are swapped around the matched text. -/
theorem expands_exactly_swapped :
    ∃ compiled found, Pattern.read .usual "(o)(n)" = .ok compiled ∧
      compiled.pattern.search "one" = some found ∧
      ∃ template, Template.read compiled (expandReplacement "\\2-&-\\1") = .ok template ∧
        template.fill found = "n-on-o".toList := by
  obtain ⟨compiled, found, read, two, search, whole, captures⟩ :=
    exists_match "(o)(n)" "one" 2 ['o', 'n'] [(2, ['n']), (1, ['o'])] (by decide +kernel)
      (by decide +kernel)
  have readable : Part.ofChars? "\\2-&-\\1".toList =
      some [.group 1, .literal '-', .whole, .literal '-', .group 0] := by
    decide
  obtain ⟨expands, -⟩ := (expands_exactly "\\2-&-\\1").2 _ readable
  have within : ∀ part ∈ [.group 1, .literal '-', .whole, .literal '-', .group 0],
      Part.Within compiled.groupCount part := by
    simp [Part.Within, two]
  obtain ⟨template, isRead, filled⟩ := expands (by decide) compiled found within
  refine ⟨compiled, found, read, search, template, isRead, filled.trans ?_⟩
  simp only [List.flatMap_cons, List.flatMap_nil, Part.text, whole, captures]
  decide

/-- The first group and a zero: by its parts the replacement is the text of the group and a zero,
but its template is refused, since there is no tenth group. -/
theorem group_takes_digit :
    Part.ofChars? "\\10".toList = some [.group 0, .literal '0'] ∧
      ∃ compiled found, Pattern.read .usual "(o)" = .ok compiled ∧ compiled.groupCount = 1 ∧
        compiled.pattern.search "one" = some found ∧
        [.group 0, .literal '0'].flatMap (Part.text found) = ['o', '0'] ∧
        Template.read compiled (expandReplacement "\\10") = .error .malformed := by
  obtain ⟨compiled, found, read, one, search, -, captures⟩ :=
    exists_match "(o)" "one" 1 ['o'] [(1, ['o'])] (by decide +kernel) (by decide +kernel)
  refine ⟨by decide, compiled, found, read, one, search, ?_, ?_⟩
  · simp only [List.flatMap_cons, List.flatMap_nil, Part.text, captures]
    decide
  · cases compiled
    cases one
    rfl

end LineEditor.Pattern

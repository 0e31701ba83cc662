import LineEditor.Text.Listing
import Mathlib.Algebra.Ring.Parity
import Mathlib.Data.List.DropRight

/-!
# Listings are unambiguous

The first character of a line can be read back from its listing, whatever
follows (`Text.readListedChar`, `Text.readListedChar_listedChar`), and no
character is listed with a bare dollar sign at its front.  So where one listing
stands before other text, both the line and the other text can be told
(`Text.listed_cancel`): no listing is the beginning of another one, and listings
that are written one after the other can be cut apart in one way only.

A dollar sign is bare if an even number of backslashes stands directly before it
(`Text.backslashesBehind`).  After each listed character that number is even
(`Text.even_backslashesBehind`), so the only bare dollar sign of a listing is the
one at its end (`Text.bare_dollar`).

`Text.listing_unambiguous` puts all of this together.
-/

set_option autoImplicit false

namespace LineEditor.Text

/-! ## How characters are listed -/

/-- What stands behind a backslash for a character that is escaped by name, with that character. -/
def escapeNames : List (Char × Char) :=
  [('\\', '\\'), ('$', '$'), ('a', '\x07'), ('b', '\x08'), ('f', '\x0c'), ('n', '\n'), ('r', '\r'),
    ('t', '\t'), ('v', '\x0b')]

/-- An ordinary character: it can be seen, and it has no meaning of its own in a listing. -/
structure Ordinary (char : Char) : Prop where
  visible : 32 ≤ char.toNat
  noDelete : char.toNat ≠ 127
  noBackslash : char ≠ '\\'
  noDollar : char ≠ '$'

instance (char : Char) : Decidable (Ordinary char) :=
  decidable_of_iff (32 ≤ char.toNat ∧ char.toNat ≠ 127 ∧ char ≠ '\\' ∧ char ≠ '$')
    ⟨fun ⟨visible, noDelete, noBackslash, noDollar⟩ =>
        ⟨visible, noDelete, noBackslash, noDollar⟩,
      fun ⟨visible, noDelete, noBackslash, noDollar⟩ =>
        ⟨visible, noDelete, noBackslash, noDollar⟩⟩

/-- The value of three octal digits. -/
def octalValue (first second third : Char) : Nat :=
  64 * (first.toNat - 48) + 8 * (second.toNat - 48) + (third.toNat - 48)

/-- A character is listed by its name, by three octal digits, or as it is. -/
inductive Listed (char : Char) : List Char → Prop
  | named {mark : Char} (name : (mark, char) ∈ escapeNames) : Listed char ['\\', mark]
  | octal {first second third : Char} (nameless : escapeNames.lookup first = none)
      (value : octalValue first second third = char.toNat)
      (digits : ∀ digit ∈ [first, second, third], Ordinary digit) :
      Listed char ['\\', first, second, third]
  | plain (ordinary : Ordinary char) : Listed char [char]

/-- What stands behind a backslash can be seen, and it tells the character. -/
theorem names_spec : ∀ name ∈ escapeNames, listedChar name.2 = ['\\', name.1] ∧
    escapeNames.lookup name.1 = some name.2 ∧ 32 ≤ name.1.toNat ∧ name.1.toNat ≠ 127 := by
  decide

/-- An octal digit is ordinary and no name, and it tells its value. -/
theorem octalDigit_spec : ∀ digit < 8, Ordinary digit.digitChar ∧
    escapeNames.lookup digit.digitChar = none ∧ digit.digitChar.toNat - 48 = digit := by
  decide

theorem threeOctalDigits_spec {value : Nat} (small : value < 512) : ∃ first second third,
    threeOctalDigits value = [first, second, third] ∧ escapeNames.lookup first = none ∧
      octalValue first second third = value ∧
      ∀ digit ∈ [first, second, third], Ordinary digit := by
  obtain ⟨ordinary, nameless, high⟩ := octalDigit_spec (value / 64) (by omega)
  obtain ⟨ordinary', -, middle⟩ := octalDigit_spec (value / 8 % 8) (by omega)
  obtain ⟨ordinary'', -, low⟩ := octalDigit_spec (value % 8) (by omega)
  refine ⟨_, _, _, rfl, nameless, ?_, ?_⟩
  · rw [octalValue, high, middle, low]
    omega
  · simp only [List.forall_mem_cons]
    exact ⟨ordinary, ordinary', ordinary'', List.forall_mem_nil _⟩

/-- A character without a name is listed by its number if it is a control character, and else as
it is. -/
theorem listedChar_nameless {char : Char} (nameless : char ∉ escapeNames.map (·.2)) :
    listedChar char =
      if char.toNat < 32 ∨ char.toNat = 127 then '\\' :: threeOctalDigits char.toNat
      else [char] := by
  simp only [escapeNames, List.map_cons, List.map_nil, List.mem_cons, List.not_mem_nil, or_false,
    not_or] at nameless
  simp [listedChar, nameless]

theorem listed_listedChar (char : Char) : Listed char (listedChar char) := by
  by_cases nameless : char ∈ escapeNames.map (·.2)
  · obtain ⟨⟨mark, named⟩, name, rfl⟩ := List.mem_map.mp nameless
    rw [(names_spec _ name).1]
    exact .named name
  · rw [listedChar_nameless nameless]
    split
    · rename_i control
      have small : char.toNat < 512 := by omega
      obtain ⟨first, second, third, listed, lookup, value, digits⟩ := threeOctalDigits_spec small
      rw [listed]
      exact .octal lookup value digits
    · rename_i printable
      refine .plain ⟨by omega, by omega, ?_, ?_⟩
      · rintro rfl
        exact nameless (by decide)
      · rintro rfl
        exact nameless (by decide)

/-! ## Reading listings back -/

/-- The character that stands listed at the front, and what follows it.  A bare dollar sign is no
character. -/
def readListedChar : List Char → Option (Char × List Char)
  | [] => none
  | char :: rest =>
    if char = '$' then none
    else if char ≠ '\\' then some (char, rest)
    else match rest with
      | [] => none
      | mark :: rest =>
        match escapeNames.lookup mark, rest with
        | some named, rest => some (named, rest)
        | none, second :: third :: rest =>
          some (Char.ofNat (octalValue mark second third), rest)
        | none, _ => none

/-- **The first character of a line is read back from its listing**, whatever follows. -/
theorem readListedChar_listedChar (char : Char) (rest : List Char) :
    readListedChar (listedChar char ++ rest) = some (char, rest) := by
  have listed := listed_listedChar char
  generalize listedChar char = shown at listed
  cases listed with
  | named name => simp [readListedChar, (names_spec _ name).2.1]
  | octal nameless value _ => simp [readListedChar, nameless, value]
  | plain ordinary => simp [readListedChar, ordinary.noDollar, ordinary.noBackslash]

/-- The end of a listing is not taken for a character. -/
theorem readListedChar_dollar (rest : List Char) : readListedChar ('$' :: rest) = none := rfl

/-- **Where a listing stands before other text, the line and the other text can be told.** -/
theorem listed_cancel (line : List Char) : ∀ {other rest rest' : List Char},
    line.flatMap listedChar ++ '$' :: rest = other.flatMap listedChar ++ '$' :: rest' →
      line = other ∧ rest = rest' := by
  induction line with
  | nil =>
      intro other rest rest' same
      cases other with
      | nil => simpa using same
      | cons char others =>
          rw [List.flatMap_cons, List.append_assoc, List.flatMap_nil, List.nil_append] at same
          have read := readListedChar_listedChar char (others.flatMap listedChar ++ '$' :: rest')
          rw [← same, readListedChar_dollar] at read
          cases read
  | cons char chars ih =>
      intro other rest rest' same
      rw [List.flatMap_cons, List.append_assoc] at same
      -- Both sides are one text, so the same character is read at the front of both.
      have read := readListedChar_listedChar char (chars.flatMap listedChar ++ '$' :: rest)
      rw [same] at read
      cases other with
      | nil =>
          rw [List.flatMap_nil, List.nil_append, readListedChar_dollar] at read
          cases read
      | cons char' others =>
          rw [List.flatMap_cons, List.append_assoc, readListedChar_listedChar, Option.some.injEq,
            Prod.mk.injEq] at read
          obtain ⟨rfl, behind⟩ := read
          obtain ⟨rfl, rfl⟩ := ih behind.symm
          exact ⟨rfl, rfl⟩

/-! ## Whole listings -/

theorem toList_listedLine (line : String) :
    (listedLine line).toList = line.toList.flatMap listedChar ++ ['$'] := by
  rw [listedLine, String.toList_ofList]

/-- No listing is the beginning of another one. -/
theorem eq_of_listedLine_prefix {line other : String}
    (starts : (listedLine line).toList <+: (listedLine other).toList) : line = other := by
  obtain ⟨rest, whole⟩ := starts
  rw [toList_listedLine, toList_listedLine, List.append_assoc] at whole
  exact String.toList_inj.mp (listed_cancel _ whole).1

/-- Listings that are written one after the other can be cut apart in one way only. -/
theorem eq_of_join_listedLine (lines : List String) : ∀ {others : List String},
    String.join (lines.map listedLine) = String.join (others.map listedLine) → lines = others := by
  simp only [← String.toList_inj, String.toList_join, List.flatMap_map, toList_listedLine]
  induction lines with
  | nil =>
      intro others same
      cases others with
      | nil => rfl
      | cons other others => simp at same
  | cons line lines ih =>
      intro others same
      cases others with
      | nil => simp at same
      | cons other others =>
          simp only [List.flatMap_cons, List.append_assoc, List.singleton_append] at same
          obtain ⟨first, behind⟩ := listed_cancel _ same
          rw [String.toList_inj.mp first, ih behind]

/-- Every character of a listing can be seen. -/
theorem visible_listedChar {char shown : Char} (member : shown ∈ listedChar char) :
    32 ≤ shown.toNat ∧ shown.toNat ≠ 127 := by
  have listed := listed_listedChar char
  generalize listedChar char = chars at listed member
  cases listed with
  | named name =>
      obtain ⟨-, -, visible, noDelete⟩ := names_spec _ name
      rw [List.mem_cons, List.mem_singleton] at member
      rcases member with rfl | rfl
      · decide
      · exact ⟨visible, noDelete⟩
  | octal _ _ digits =>
      rw [List.mem_cons] at member
      rcases member with rfl | digit
      · decide
      · exact ⟨(digits _ digit).visible, (digits _ digit).noDelete⟩
  | plain ordinary =>
      rw [List.mem_singleton.mp member]
      exact ⟨ordinary.visible, ordinary.noDelete⟩

/-! ## Bare dollar signs -/

/-- How many backslashes stand directly at the end. -/
def backslashesBehind (chars : List Char) : Nat :=
  (chars.rtakeWhile (· == '\\')).length

theorem even_backslashesBehind_concat (front : List Char) {last : Char} (other : last ≠ '\\') :
    Even (backslashesBehind (front ++ [last])) := by
  rw [backslashesBehind, List.rtakeWhile_concat, if_neg (by simpa using other), List.length_nil]
  exact Even.zero

/-- Whether the number is odd is decided behind a place where it is even. -/
theorem odd_backslashesBehind_append {front : List Char} (even : Even (backslashesBehind front))
    (back : List Char) :
    Odd (backslashesBehind (front ++ back)) ↔ Odd (backslashesBehind back) := by
  simp only [backslashesBehind, List.rtakeWhile, List.length_reverse, List.reverse_append,
    List.takeWhile_append] at even ⊢
  split
  -- If the back is nothing but backslashes, those at the end of the front are counted, too.
  · rename_i all
    rw [List.length_append, all, Nat.odd_add, List.length_reverse]
    simp only [even, iff_true]
  · exact Iff.rfl

/-- After each listed character the number is even. -/
theorem even_backslashesBehind (char : Char) : Even (backslashesBehind (listedChar char)) := by
  have listed := listed_listedChar char
  generalize listedChar char = shown at listed
  cases listed with
  | @named mark _ =>
      by_cases backslash : mark = '\\'
      · rw [backslash]
        decide
      · exact even_backslashesBehind_concat ['\\'] backslash
  | @octal first second third _ _ digits =>
      exact even_backslashesBehind_concat ['\\', first, second] (digits third (by simp)).noBackslash
  | plain ordinary => exact even_backslashesBehind_concat [] ordinary.noBackslash

/-- A dollar sign that is part of a listed character stands at its end, behind one backslash. -/
theorem dollar_listedChar {char : Char} {front back : List Char}
    (whole : listedChar char = front ++ '$' :: back) : front = ['\\'] ∧ back = [] := by
  have listed := listed_listedChar char
  generalize listedChar char = shown at listed whole
  have ordinary : ¬Ordinary '$' := fun ordinary => ordinary.noDollar rfl
  cases listed with
  | @named mark _ =>
      have parts : front = ['\\'] ∧ '$' = mark ∧ back = [] := by
        simpa [List.cons_eq_append_iff] using whole
      exact ⟨parts.1, parts.2.2⟩
  | octal _ _ digits =>
      have digit : '$' ∈ front ++ '$' :: back := by simp
      rw [← whole, List.mem_cons] at digit
      exact absurd (digits '$' (digit.resolve_left (by decide))) ordinary
  | plain printable =>
      have same : '$' ∈ front ++ '$' :: back := by simp
      rw [← whole, List.mem_singleton] at same
      exact absurd (same ▸ printable) ordinary

/-- **The only dollar sign of a listing that is bare is the one at its end.** -/
theorem bare_dollar (line : List Char) : ∀ {front back : List Char},
    line.flatMap listedChar ++ ['$'] = front ++ '$' :: back →
      (¬Odd (backslashesBehind front) ↔ back = []) := by
  induction line with
  | nil =>
      intro front back whole
      obtain ⟨rfl, rfl⟩ : front = [] ∧ back = [] := by
        simpa [List.cons_eq_append_iff] using whole
      decide
  | cons char chars ih =>
      intro front back whole
      -- The dollar sign stands behind the first listed character or is a part of it.
      have place : (∃ behind, front = listedChar char ++ behind ∧
            chars.flatMap listedChar ++ ['$'] = behind ++ '$' :: back) ∨
          ∃ part, listedChar char = front ++ '$' :: part ∧
            back = part ++ (chars.flatMap listedChar ++ ['$']) := by
        rw [List.flatMap_cons, List.append_assoc, List.append_eq_append_iff] at whole
        rcases whole with behind | ⟨part, shown, rest⟩
        · exact .inl behind
        · cases part with
          | nil => exact .inl ⟨[], by simpa using shown.symm, rest.symm⟩
          | cons dollar part =>
              cases rest
              exact .inr ⟨part, shown, rfl⟩
      rcases place with ⟨behind, rfl, rest⟩ | ⟨part, shown, rfl⟩
      · rw [odd_backslashesBehind_append (even_backslashesBehind char)]
        exact ih rest
      · obtain ⟨rfl, rfl⟩ := dollar_listedChar shown
        have odd : Odd (backslashesBehind ['\\']) := by decide
        simp [odd]

/-! ## The main result -/

/-- **Listings are unambiguous.**  A listing that another one begins with is the listing of the same
line.  So different lines have different listings, and a text that is made of listings is made of
those of one sequence of lines only.

All characters of a listing can be seen.  It ends in a dollar sign, and this is its only one that
has an even number of backslashes directly before it. -/
theorem listing_unambiguous :
    (∀ line other : String,
      (listedLine line).toList <+: (listedLine other).toList → line = other) ∧
    Function.Injective listedLine ∧
    (∀ lines others : List String,
      String.join (lines.map listedLine) = String.join (others.map listedLine) →
        lines = others) ∧
    ∀ line : String,
      (∀ shown ∈ (listedLine line).toList, 32 ≤ shown.toNat ∧ shown.toNat ≠ 127) ∧
      (listedLine line).toList.getLast? = some '$' ∧
      ∀ front back, (listedLine line).toList = front ++ '$' :: back →
        (¬Odd (backslashesBehind front) ↔ back = []) := by
  refine ⟨fun _ _ => eq_of_listedLine_prefix, ?_, fun lines _ => eq_of_join_listedLine lines, ?_⟩
  · intro line other same
    exact eq_of_listedLine_prefix (same ▸ List.prefix_rfl)
  · intro line
    rw [toList_listedLine]
    refine ⟨fun shown member => ?_, List.getLast?_concat, fun front back => bare_dollar _⟩
    rw [List.mem_append, List.mem_flatMap, List.mem_singleton] at member
    rcases member with ⟨char, -, member⟩ | rfl
    · exact visible_listedChar member
    · decide

/-- Of the two dollar signs of a listing the first one is escaped; a control character and the line
that looks like its escape are listed differently. -/
theorem listing_unambiguous_dollar :
    (listedLine "a$").toList = ['a', '\\'] ++ '$' :: ['$'] ∧ Odd (backslashesBehind ['a', '\\']) ∧
      (listedLine "a$").toList = ['a', '\\', '$'] ++ '$' :: [] ∧
      ¬Odd (backslashesBehind ['a', '\\', '$']) ∧
      (listedLine "\x01").toList <+: (listedLine (String.ofList ['\x01'])).toList ∧
      "\x01" = String.ofList ['\x01'] ∧
      String.join (["a", "$"].map listedLine) = String.join (["$", "a"].reverse.map listedLine) ∧
      ["a", "$"] = ["$", "a"].reverse ∧
      listedLine "\\001" ≠ listedLine "\x01" := by
  obtain ⟨starts, injective, cut, each⟩ := listing_unambiguous
  have first : (listedLine "a$").toList = ['a', '\\'] ++ '$' :: ['$'] := by decide +kernel
  have second : (listedLine "a$").toList = ['a', '\\', '$'] ++ '$' :: [] := by decide +kernel
  have begins : (listedLine "\x01").toList <+: (listedLine (String.ofList ['\x01'])).toList := by
    decide +kernel
  have joined : String.join (["a", "$"].map listedLine) =
      String.join (["$", "a"].reverse.map listedLine) := by decide +kernel
  refine ⟨first, not_not.mp (mt ((each _).2.2 _ _ first).mp (by decide)), second,
    ((each _).2.2 _ _ second).mpr rfl, begins, starts _ _ begins, joined, cut _ _ joined, ?_⟩
  exact injective.ne (by decide)

end LineEditor.Text

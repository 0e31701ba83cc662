import LineEditor.Address.Token
import Mathlib.Data.List.TakeWhile

/-!
# Address tokens as they are written

An address token is a base with signed amounts behind it.  `WrittenToken` holds
the parts of one together with what makes them parts: digits are digits, and the
body of a search does not hold the character that closes it.

Such a token is split exactly between its base and its offsets
(`WrittenToken.splitChars_chars`), and its offsets are read as what they write
(`WrittenToken.readOffsets?_offsetChars`).  Conversely every list of characters
starts with a base, or is one of the two things that are none: a search that
nothing closes and a lone quote (`splitChars_cases`).
-/

set_option autoImplicit false

namespace LineEditor.Address

open LineEditor.Text

/-- A sign and the digits behind it, of which there may be none. -/
structure WrittenOffset where
  sign : Char
  digits : List Char
  signed : isSign sign = true
  decimal : ∀ char ∈ digits, isDigit char = true

/-- The character that opens a search and closes it. -/
def searchDelimiter (isForward : Bool) : Char :=
  if isForward then '/' else '?'

/-- What a token starts with. -/
inductive WrittenBase where
  | absent
  | point
  | last
  | number (digits : List Char) (present : digits ≠ [])
      (decimal : ∀ char ∈ digits, isDigit char = true)
  | mark (name : Char)
  | search (isForward : Bool) (body : List Char) (within : searchDelimiter isForward ∉ body)

/-- An address token in its parts. -/
structure WrittenToken where
  base : WrittenBase
  offsets : List WrittenOffset := []

/-- The characters of an offset. -/
def WrittenOffset.chars (offset : WrittenOffset) : List Char :=
  offset.sign :: offset.digits

/-- What an offset is read as. -/
def WrittenOffset.toOffset (offset : WrittenOffset) : Offset where
  isNegative := offset.sign != '+'
  digits := offset.digits

/-- The characters of a base. -/
def WrittenBase.chars : WrittenBase → List Char
  | .absent => []
  | .point => ['.']
  | .last => ['$']
  | .number digits _ _ => digits
  | .mark name => ['\'', name]
  | .search isForward body _ =>
    searchDelimiter isForward :: (body ++ [searchDelimiter isForward])

/-- What a base is read as. -/
def WrittenBase.toBase : WrittenBase → Base
  | .absent | .point => .current
  | .last => .last
  | .number digits _ _ => .number digits
  | .mark name => .mark [name]
  | .search isForward body _ => .search isForward body

namespace WrittenToken

/-- The characters of the offsets of a token. -/
def offsetChars (token : WrittenToken) : List Char :=
  token.offsets.flatMap WrittenOffset.chars

/-- The characters of a token. -/
def chars (token : WrittenToken) : List Char :=
  token.base.chars ++ token.offsetChars

end WrittenToken

/-! ## Characters -/

/-- The characters that start the bases other than numbers are no digits. -/
theorem isDigit_plain {char : Char} (digit : isDigit char = true) :
    isSign char = false ∧ char ∉ ['/', '?', '\'', '.', '$'] := by
  have plain : ∀ other ∈ ['+', '-', '^', '/', '?', '\'', '.', '$'], isDigit other = false := by
    simp only [List.mem_cons, List.not_mem_nil, or_false, forall_eq_or_imp, forall_eq]
    decide
  have differs : ∀ other ∈ ['+', '-', '^', '/', '?', '\'', '.', '$'], char ≠ other := by
    rintro other member rfl
    rw [plain char member] at digit
    cases digit
  simp only [List.mem_cons, List.not_mem_nil, or_false, forall_eq_or_imp, forall_eq] at differs
  simp [isSign, differs]

/-- A sign is no digit and starts no base. -/
theorem isSign_plain {char : Char} (signed : isSign char = true) :
    isDigit char = false ∧ char ∉ ['/', '?', '\'', '.', '$'] := by
  simp only [isSign, Bool.or_eq_true, beq_iff_eq] at signed
  rcases signed with (rfl | rfl) | rfl
  · decide
  · decide
  · decide

/-! ## Searches -/

/-- Splitting behind a character that is there. -/
theorem splitAfter_closed {close : Char} {body : List Char} (within : close ∉ body)
    (rest : List Char) : splitAfter close (body ++ close :: rest) = (body ++ [close], rest) := by
  induction body with
  | nil => simp [splitAfter]
  | cons char body ih =>
      simp only [List.mem_cons, not_or] at within
      simp [splitAfter, Ne.symm within.1, ih within.2]

/-- Splitting behind a character that is not there. -/
theorem splitAfter_open {close : Char} {body : List Char} (within : close ∉ body) :
    splitAfter close body = (body, []) := by
  induction body with
  | nil => rfl
  | cons char body ih =>
      simp only [List.mem_cons, not_or] at within
      simp [splitAfter, Ne.symm within.1, ih within.2]

/-- A list holds a character behind a part without it, or not at all. -/
theorem exists_body (close : Char) (chars : List Char) :
    (∃ body rest, close ∉ body ∧ chars = body ++ close :: rest) ∨ close ∉ chars := by
  by_cases held : close ∈ chars
  · obtain ⟨body, rest, same, within⟩ := List.eq_append_cons_of_mem held
    exact .inl ⟨body, rest, within, same⟩
  · exact .inr held

/-- What a search asks for, when it is closed. -/
theorem searchBody_closed (close : Char) (body : List Char) :
    searchBody close (body ++ [close]) = body := by
  simp [searchBody]

/-- What a search asks for, when nothing closes it. -/
theorem searchBody_open {close : Char} {body : List Char} (within : close ∉ body) :
    searchBody close body = body := by
  have other : body.getLast? ≠ some close := fun last => within (List.mem_of_getLast? last)
  simp [searchBody, other]

theorem searchDelimiter_or (isForward : Bool) :
    searchDelimiter isForward = '/' ∨ searchDelimiter isForward = '?' := by
  cases isForward <;> simp [searchDelimiter]

theorem searchDelimiter_forward (isForward : Bool) :
    decide (searchDelimiter isForward = '/') = isForward := by
  cases isForward <;> decide

/-- A character that opens a search tells its direction. -/
theorem exists_searchDelimiter {char : Char} (opens : char = '/' ∨ char = '?') :
    ∃ isForward, char = searchDelimiter isForward := by
  rcases opens with rfl | rfl
  · exact ⟨true, rfl⟩
  · exact ⟨false, rfl⟩

/-- A search that nothing closes is all base. -/
theorem splitChars_open {isForward : Bool} {body : List Char}
    (within : searchDelimiter isForward ∉ body) :
    splitChars (searchDelimiter isForward :: body) = (searchDelimiter isForward :: body, []) := by
  simp [splitChars, searchDelimiter_or, splitAfter_open within]

/-- The base of a search that nothing closes. -/
theorem ofChars_open {isForward : Bool} {body : List Char}
    (within : searchDelimiter isForward ∉ body) :
    Base.ofChars (searchDelimiter isForward :: body) = .search isForward body := by
  simp [Base.ofChars, searchDelimiter_or, searchDelimiter_forward, searchBody_open within]

/-! ## Splitting what has been written -/

/-- Behind digits come no more digits, but a sign or nothing. -/
theorem span_offsets {digits : List Char} (decimal : ∀ char ∈ digits, isDigit char = true)
    (offsets : List WrittenOffset) :
    (digits ++ offsets.flatMap WrittenOffset.chars).takeWhile isDigit = digits ∧
      (digits ++ offsets.flatMap WrittenOffset.chars).dropWhile isDigit =
        offsets.flatMap WrittenOffset.chars := by
  rw [List.takeWhile_append_of_pos decimal, List.dropWhile_append_of_pos decimal]
  cases offsets with
  | nil => simp
  | cons offset rest =>
      have plain := (isSign_plain offset.signed).1
      simp [WrittenOffset.chars, plain]

namespace WrittenToken

variable (token : WrittenToken)

/-- **A token is split between its base and its offsets.** -/
theorem splitChars_chars : splitChars token.chars = (token.base.chars, token.offsetChars) := by
  obtain ⟨base, offsets⟩ := token
  simp only [chars, offsetChars]
  cases base with
  | absent =>
      cases offsets with
      | nil => rfl
      | cons offset rest =>
          obtain ⟨plain, other⟩ := isSign_plain offset.signed
          simp only [List.mem_cons, List.not_mem_nil, or_false, not_or] at other
          simp [splitChars, WrittenBase.chars, WrittenOffset.chars, other, plain]
  | point => simp [splitChars, WrittenBase.chars]
  | last => simp [splitChars, WrittenBase.chars]
  | number digits present decimal =>
      obtain ⟨taken, dropped⟩ := span_offsets decimal offsets
      cases digits with
      | nil => exact absurd rfl present
      | cons char digits =>
          have other := (isDigit_plain (decimal char List.mem_cons_self)).2
          simp only [List.mem_cons, List.not_mem_nil, or_false, not_or] at other
          simp only [WrittenBase.chars, List.cons_append] at taken dropped ⊢
          simp only [splitChars, other, or_self, if_false, taken, dropped]
  | mark name => simp [splitChars, WrittenBase.chars]
  | search isForward body within =>
      simp [splitChars, WrittenBase.chars, searchDelimiter_or, splitAfter_closed within]

end WrittenToken

/-- A base is read as what it writes. -/
theorem WrittenBase.ofChars_chars (base : WrittenBase) : Base.ofChars base.chars = base.toBase := by
  cases base with
  | absent => rfl
  | point => simp [Base.ofChars, chars, toBase]
  | last => simp [Base.ofChars, chars, toBase]
  | number digits present decimal =>
      cases digits with
      | nil => exact absurd rfl present
      | cons char digits =>
          have other := (isDigit_plain (decimal char List.mem_cons_self)).2
          simp only [List.mem_cons, List.not_mem_nil, or_false, not_or] at other
          simp [Base.ofChars, chars, toBase, other]
  | mark name => simp [Base.ofChars, chars, toBase]
  | search isForward body within =>
      simp [Base.ofChars, chars, toBase, searchDelimiter_or, searchDelimiter_forward,
        searchBody_closed]

/-! ## Reading offsets -/

/-- Digits in front of offsets are still without a sign. -/
theorem readOffsetsFrom_written {digits : List Char}
    (decimal : ∀ char ∈ digits, isDigit char = true) (offsets : List WrittenOffset) :
    readOffsetsFrom (digits ++ offsets.flatMap WrittenOffset.chars) =
      some (digits, offsets.map WrittenOffset.toOffset) := by
  induction offsets generalizing digits with
  | nil =>
      induction digits with
      | nil => rfl
      | cons char digits ih =>
          have first := decimal char List.mem_cons_self
          have others := ih fun other member => decimal other (List.mem_cons_of_mem _ member)
          simp only [List.cons_append, readOffsetsFrom, others, first, if_true]
  | cons offset rest offsetsRead =>
      induction digits with
      | nil =>
          obtain ⟨plain, -⟩ := isSign_plain offset.signed
          have others := offsetsRead offset.decimal
          simp only [List.nil_append, List.flatMap_cons, WrittenOffset.chars, List.cons_append,
            readOffsetsFrom, others, plain, offset.signed, if_true, Bool.false_eq_true, if_false,
            List.map_cons, WrittenOffset.toOffset]
      | cons char digits ih =>
          have first := decimal char List.mem_cons_self
          have others := ih fun other member => decimal other (List.mem_cons_of_mem _ member)
          simp only [List.cons_append, readOffsetsFrom, others, first, if_true]

/-- What is read as offsets behind digits has been written so. -/
theorem exists_written_of_readOffsetsFrom {chars digits : List Char} {offsets : List Offset}
    (read : readOffsetsFrom chars = some (digits, offsets)) :
    (∀ char ∈ digits, isDigit char = true) ∧ ∃ written : List WrittenOffset,
      chars = digits ++ written.flatMap WrittenOffset.chars ∧
        offsets = written.map WrittenOffset.toOffset := by
  induction chars generalizing digits offsets with
  | nil =>
      cases read
      exact ⟨by simp, [], rfl, rfl⟩
  | cons char rest ih =>
      rw [readOffsetsFrom] at read
      split at read
      · cases read
      · rename_i others later restRead
        obtain ⟨decimal, written, same, laterWritten⟩ := ih restRead
        split at read
        · rename_i digit
          cases read
          refine ⟨?_, written, by rw [same, List.cons_append], laterWritten⟩
          exact List.forall_mem_cons.mpr ⟨digit, decimal⟩
        · split at read
          · rename_i signed
            cases read
            refine ⟨by simp, ⟨char, others, signed, decimal⟩ :: written, ?_, ?_⟩
            · simp [WrittenOffset.chars, same]
            · simp [WrittenOffset.toOffset, laterWritten]
          · cases read

theorem WrittenToken.readOffsets?_offsetChars (token : WrittenToken) :
    readOffsets? token.offsetChars = some (token.offsets.map WrittenOffset.toOffset) := by
  have none : ∀ char ∈ ([] : List Char), isDigit char = true := by simp
  have read := readOffsetsFrom_written none token.offsets
  rw [List.nil_append] at read
  rw [readOffsets?, offsetChars, read]

/-- What is read as offsets has been written so. -/
theorem exists_written_of_readOffsets? {chars : List Char} {offsets : List Offset}
    (read : readOffsets? chars = some offsets) :
    ∃ written : List WrittenOffset, chars = written.flatMap WrittenOffset.chars ∧
      offsets = written.map WrittenOffset.toOffset := by
  rw [readOffsets?] at read
  split at read
  · rename_i offsets' readFrom
    cases read
    exact (exists_written_of_readOffsetsFrom readFrom).2
  · cases read

/-! ## What a token can start with -/

/-- Characters that open no search and no mark, and are no base of one character, start with their
leading digits. -/
theorem splitChars_digits {chars : List Char}
    (plain : ∀ char ∈ chars.head?, char ∉ ['/', '?', '\'', '.', '$']) :
    ∃ (base : WrittenBase) (rest : List Char),
      chars = base.chars ++ rest ∧ splitChars chars = (base.chars, rest) := by
  cases chars with
  | nil => exact ⟨.absent, [], rfl, rfl⟩
  | cons char rest =>
      have other := plain char rfl
      simp only [List.mem_cons, List.not_mem_nil, or_false, not_or] at other
      have split : splitChars (char :: rest) =
          ((char :: rest).takeWhile isDigit, (char :: rest).dropWhile isDigit) := by
        simp only [splitChars, other, or_self, if_false]
      cases digit : isDigit char with
      | false =>
          refine ⟨.absent, char :: rest, rfl, ?_⟩
          rw [split, List.takeWhile_cons_of_neg (by simp [digit]),
            List.dropWhile_cons_of_neg (by simp [digit])]
          rfl
      | true =>
          refine ⟨.number ((char :: rest).takeWhile isDigit) ?_ ?_,
            (char :: rest).dropWhile isDigit, List.takeWhile_append_dropWhile.symm, split⟩
          · simp [digit]
          · exact fun other member => List.mem_takeWhile_imp member

/-- **Every list of characters starts with a base**, unless it is a search that nothing closes, or a
quote without a name. -/
theorem splitChars_cases (chars : List Char) :
    (∃ (base : WrittenBase) (rest : List Char),
      chars = base.chars ++ rest ∧ splitChars chars = (base.chars, rest)) ∨
    (∃ (isForward : Bool) (body : List Char), searchDelimiter isForward ∉ body ∧
      chars = searchDelimiter isForward :: body) ∨
    chars = ['\''] := by
  by_cases plain : ∀ char ∈ chars.head?, char ∉ ['/', '?', '\'', '.', '$']
  · exact .inl (splitChars_digits plain)
  · cases chars with
    | nil => exact absurd nofun plain
    | cons char rest =>
        simp only [List.head?_cons, Option.mem_some_iff, forall_eq', not_not, List.mem_cons,
          List.not_mem_nil, or_false, ← or_assoc] at plain
        rcases plain with ((opens | rfl) | rfl) | rfl
        · obtain ⟨isForward, rfl⟩ := exists_searchDelimiter opens
          rcases exists_body (searchDelimiter isForward) rest with
            ⟨body, after, within, rfl⟩ | within
          · refine .inl ⟨.search isForward body within, after, by simp [WrittenBase.chars], ?_⟩
            simp [splitChars, WrittenBase.chars, searchDelimiter_or, splitAfter_closed within]
          · exact .inr (.inl ⟨isForward, rest, within, rfl⟩)
        · cases rest with
          | nil => exact .inr (.inr rfl)
          | cons name after =>
              exact .inl ⟨.mark name, after, rfl, by simp [splitChars, WrittenBase.chars]⟩
        · exact .inl ⟨.point, rest, rfl, by simp [splitChars, WrittenBase.chars]⟩
        · exact .inl ⟨.last, rest, rfl, by simp [splitChars, WrittenBase.chars]⟩

end LineEditor.Address

import LineEditor.CommandLine
import LineEditor.Proofs.Address.Written

/-!
# Scanning what has been written

The scanner undoes the writing of a command line.  It takes the characters of an
address token up one by one (`ScanState.feed_token`), passes over white space
between the parts of a line (`ScanState.feed_blanks`), and hands over everything
from the command letter on as it stands (`ScanState.finish_feed_rest`).  So a
line of one token or of two, with white space around them, is scanned as it was
meant (`CommandLine.scan_one`, `CommandLine.scan_two`), and its tokens are split
again between their bases and their offsets (`CommandLine.scan_undoes_writing`).

The scanner takes only the digits of ASCII for digits of an address
(`WrittenToken.IsAscii`).  In searches and marks any character may stand.
-/

set_option autoImplicit false

namespace LineEditor

open LineEditor.Text (isBlank isBlankText)
open LineEditor.Address (WrittenBase WrittenOffset WrittenToken searchDelimiter)

/-! ## Digits -/

/-- What holds of the ten digits of ASCII holds of every digit. -/
theorem Char.isDigit_cases (property : Char → Prop)
    (holds : ∀ code < 58, 48 ≤ code → property (Char.ofNat code)) {char : Char}
    (digit : char.isDigit = true) : property char := by
  simp only [Char.isDigit, Bool.and_eq_true, decide_eq_true_eq, ge_iff_le,
    UInt32.le_iff_toNat_le] at digit
  rw [← Char.ofNat_toNat char]
  exact holds _ (Nat.lt_succ_of_le digit.2) digit.1

/-- A digit is none of the characters that mean something else to the scanner. -/
theorem Char.isDigit_plain {char : Char} (digit : char.isDigit = true) :
    (Text.isDigit char = true ∧ Text.isBlank char = false) ∧
      char ∉ ['%', ';', ',', '/', '?', '\'', '.', '$'] :=
  Char.isDigit_cases
    (fun char => (Text.isDigit char = true ∧ Text.isBlank char = false) ∧
      char ∉ ['%', ';', ',', '/', '?', '\'', '.', '$'])
    (by decide) digit

/-- A character of an address is none of those that mean something else to the scanner. -/
theorem isAddressChar_plain {char : Char} (address : isAddressChar char = true) :
    Text.isBlank char = false ∧ char ∉ ['%', ';', ',', '/', '?', '\''] := by
  cases digit : char.isDigit with
  | true =>
      obtain ⟨⟨-, solid⟩, other⟩ := Char.isDigit_plain digit
      refine ⟨solid, fun member => other ?_⟩
      exact List.mem_append_left ['.', '$'] member
  | false =>
      simp only [isAddressChar, digit, Bool.false_or, Bool.or_eq_true, beq_iff_eq] at address
      rcases address with (((rfl | rfl) | rfl) | rfl) | rfl
      · decide
      · decide
      · decide
      · decide
      · decide

theorem isAddressChar_of_digit {char : Char} (digit : char.isDigit = true) :
    isAddressChar char = true := by
  simp [isAddressChar, digit]

theorem isAddressChar_of_sign {char : Char} (signed : isSign char = true) :
    isAddressChar char = true := by
  simp only [isSign, Bool.or_eq_true, beq_iff_eq] at signed
  rcases signed with (rfl | rfl) | rfl
  · decide
  · decide
  · decide

namespace ScanState

/-! ## Between characters -/

/-- The scanner is within the addresses, outside of searches and marks. -/
structure Between (state : ScanState) : Prop where
  phase : state.phase ≠ .rest
  delimiter : state.delimiter? = none
  mark : state.inMark = false

/-- The scanner is within an address, outside of searches and marks and not behind a gap. -/
structure Reading (state : ScanState) : Prop extends state.Between where
  gap : state.gap = false

theorem reading_start : Reading {} :=
  ⟨⟨by decide, rfl, rfl⟩, rfl⟩

/-- What the scanner does with a character that is not white space. -/
theorem step_between {state : ScanState} (between : state.Between) {char : Char}
    (solid : isBlank char = false) : state.step char = { state.stepAddress char with gap := false } := by
  simp [step, between.phase, between.delimiter, between.mark, solid]

theorem feed_append (state : ScanState) (chars others : List Char) :
    state.feed (chars ++ others) = (state.feed chars).feed others :=
  List.foldl_append

theorem feed_cons (state : ScanState) (char : Char) (chars : List Char) :
    state.feed (char :: chars) = (state.step char).feed chars := rfl

theorem feed_single (state : ScanState) (char : Char) : state.feed [char] = state.step char := rfl

/-! ## Taking up a token -/

/-- Adds characters to the address token being read. -/
def pushChars (state : ScanState) (chars : List Char) : ScanState :=
  chars.foldl pushToken state

theorem pushChars_cons (state : ScanState) (char : Char) (chars : List Char) :
    state.pushChars (char :: chars) = (state.pushToken char).pushChars chars := rfl

theorem pushChars_single (state : ScanState) (char : Char) :
    state.pushChars [char] = state.pushToken char := rfl

theorem pushChars_append (state : ScanState) (chars others : List Char) :
    state.pushChars (chars ++ others) = (state.pushChars chars).pushChars others :=
  List.foldl_append

theorem pushToken_first {state : ScanState} (first : state.phase ≠ .second) (char : Char) :
    state.pushToken char = { state with first := state.first.push char } := by
  rw [pushToken, if_neg first]

theorem pushToken_second {state : ScanState} (second : state.phase = .second) (char : Char) :
    state.pushToken char = { state with second := state.second.push char } := by
  rw [pushToken, if_pos second]

/-- Characters of the first token are added to it. -/
theorem pushChars_first (chars : List Char) : ∀ {state : ScanState}, state.phase ≠ .second →
    state.pushChars chars = { state with first := state.first ++ String.ofList chars } := by
  induction chars with
  | nil => simp [pushChars]
  | cons char rest ih =>
      intro state first
      rw [pushChars_cons, pushToken_first first, ih (by exact first)]
      congr 1
      exact String.ext (by simp)

/-- Characters of the second token are added to it. -/
theorem pushChars_second (chars : List Char) : ∀ {state : ScanState}, state.phase = .second →
    state.pushChars chars = { state with second := state.second ++ String.ofList chars } := by
  induction chars with
  | nil => simp [pushChars]
  | cons char rest ih =>
      intro state second
      rw [pushChars_cons, pushToken_second second, ih (by exact second)]
      congr 1
      exact String.ext (by simp)

/-- Adding to a token leaves everything else as it is. -/
theorem Reading.pushChars {state : ScanState} (reading : state.Reading) (chars : List Char) :
    (state.pushChars chars).Reading := by
  obtain ⟨⟨phase, delimiter, mark⟩, gap⟩ := reading
  by_cases second : state.phase = .second
  · rw [pushChars_second chars second]
    exact ⟨⟨phase, delimiter, mark⟩, gap⟩
  · rw [pushChars_first chars second]
    exact ⟨⟨phase, delimiter, mark⟩, gap⟩

theorem Reading.pushToken {state : ScanState} (reading : state.Reading) (char : Char) :
    (state.pushToken char).Reading :=
  reading.pushChars [char]

/-- The characters are taken up into the token as they stand. -/
def TakenUp (chars : List Char) : Prop :=
  ∀ state : ScanState, state.Reading → state.feed chars = state.pushChars chars

theorem TakenUp.append {chars others : List Char} (first : TakenUp chars)
    (second : TakenUp others) : TakenUp (chars ++ others) := by
  intro state reading
  rw [feed_append, first state reading, second _ (reading.pushChars chars), pushChars_append]

/-- An address character is added to the token. -/
theorem step_addressChar {state : ScanState} (reading : state.Reading) {char : Char}
    (address : isAddressChar char = true) : state.step char = state.pushToken char := by
  obtain ⟨solid, other⟩ := isAddressChar_plain address
  simp only [List.mem_cons, List.not_mem_nil, or_false, not_or] at other
  have gap := (reading.pushToken char).gap
  rw [step_between reading.toBetween solid]
  simp only [stepAddress, other, if_false, or_self, address, if_true, pushAddress, reading.gap,
    Bool.false_and, Bool.false_eq_true]
  rw [← gap]

/-- Address characters are added to the token. -/
theorem takenUp_addressChars {chars : List Char}
    (address : ∀ char ∈ chars, isAddressChar char = true) : TakenUp chars := by
  induction chars with
  | nil => exact fun _ _ => rfl
  | cons char rest ih =>
      intro state reading
      rw [feed_cons, step_addressChar reading (address char List.mem_cons_self)]
      exact ih (fun other member => address other (List.mem_cons_of_mem _ member)) _
        (reading.pushToken char)

/-! ## Searches and marks -/

/-- The scanner inside of a search. -/
def within (state : ScanState) (isForward : Bool) : ScanState :=
  { state with delimiter? := some (searchDelimiter isForward) }

/-- The scanner behind the quote of a mark. -/
def quoted (state : ScanState) : ScanState :=
  { state with inMark := true }

/-- A delimiter opens a search. -/
theorem step_opening {state : ScanState} (reading : state.Reading) (isForward : Bool) :
    state.step (searchDelimiter isForward) =
      (state.pushToken (searchDelimiter isForward)).within isForward := by
  have gap := (reading.pushToken (searchDelimiter isForward)).gap
  have solid : isBlank (searchDelimiter isForward) = false := by cases isForward <;> decide
  have opened : state.stepAddress (searchDelimiter isForward) =
      (state.pushToken (searchDelimiter isForward)).within isForward := by
    cases isForward <;> rfl
  rw [step_between reading.toBetween solid, opened, within, gap]

/-- Inside of a search every other character is added to the token. -/
theorem step_within {state : ScanState} (reading : state.Reading) {isForward : Bool} {char : Char}
    (other : char ≠ searchDelimiter isForward) :
    (state.within isForward).step char = (state.pushToken char).within isForward := by
  by_cases second : state.phase = .second
  · simp [step, within, pushToken, second, other]
  · simp [step, within, pushToken, second, other, reading.phase]

/-- The character that closes a search is added to the token. -/
theorem step_closing {state : ScanState} (reading : state.Reading) (isForward : Bool) :
    (state.within isForward).step (searchDelimiter isForward) =
      state.pushToken (searchDelimiter isForward) := by
  by_cases second : state.phase = .second
  · simp [step, within, pushToken, second, reading.delimiter]
  · simp [step, within, pushToken, second, reading.phase, reading.delimiter]

/-- What a search asks for is added to the token. -/
theorem feed_within {isForward : Bool} (body : List Char) :
    ∀ {state : ScanState}, state.Reading → searchDelimiter isForward ∉ body →
      (state.within isForward).feed body = (state.pushChars body).within isForward := by
  induction body with
  | nil => exact fun _ _ => rfl
  | cons char rest ih =>
      intro state reading absent
      simp only [List.mem_cons, not_or] at absent
      rw [feed_cons, step_within reading (Ne.symm absent.1), pushChars_cons]
      exact ih (reading.pushToken char) absent.2

/-- A search is taken up with the character that closes it. -/
theorem takenUp_search {isForward : Bool} {body : List Char}
    (closed : searchDelimiter isForward ∉ body) :
    TakenUp (searchDelimiter isForward :: (body ++ [searchDelimiter isForward])) := by
  intro state reading
  have opened := reading.pushToken (searchDelimiter isForward)
  rw [feed_cons, step_opening reading, feed_append, feed_within body opened closed, feed_single,
    step_closing (opened.pushChars body), pushChars_cons, pushChars_append, pushChars_single]

/-- The quote of a mark is added to the token. -/
theorem step_quote {state : ScanState} (reading : state.Reading) :
    state.step '\'' = (state.pushToken '\'').quoted := by
  have gap := (reading.pushToken '\'').gap
  have opened : state.stepAddress '\'' = (state.pushToken '\'').quoted := rfl
  rw [step_between reading.toBetween (by decide), opened, quoted, gap]

/-- The name of a mark is added to the token. -/
theorem step_quoted {state : ScanState} (reading : state.Reading) (name : Char) :
    state.quoted.step name = state.pushToken name := by
  by_cases second : state.phase = .second
  · simp [step, quoted, pushToken, second, reading.delimiter, reading.mark]
  · simp [step, quoted, pushToken, second, reading.phase, reading.delimiter, reading.mark]

/-- A mark is taken up with whatever character it is named by. -/
theorem takenUp_mark (name : Char) : TakenUp ['\'', name] := by
  intro state reading
  rw [feed_cons, step_quote reading, feed_single, step_quoted (reading.pushToken '\'')]
  rfl

/-! ## White space, commas and letters -/

/-- White space leaves everything as it is, apart from the gap. -/
theorem feed_blanks (blanks : List Char) : ∀ {state : ScanState}, state.Between →
    blanks.all isBlank = true → ∃ gap, state.feed blanks = { state with gap } := by
  induction blanks with
  | nil => exact fun _ _ => ⟨_, rfl⟩
  | cons char rest ih =>
      intro state between blank
      obtain ⟨phase, delimiter, mark⟩ := between
      rw [List.all_cons, Bool.and_eq_true] at blank
      have stepped : state.step char = { state with gap := !state.token.isEmpty } := by
        simp [step, phase, delimiter, mark, blank.1]
      rw [feed_cons, stepped]
      exact ih ⟨phase, delimiter, mark⟩ blank.2

/-- White space in front of a token leaves everything as it is. -/
theorem feed_leading (blanks : List Char) : ∀ {state : ScanState}, state.Reading →
    state.token = "" → blanks.all isBlank = true → state.feed blanks = state := by
  induction blanks with
  | nil => exact fun _ _ _ => rfl
  | cons char rest ih =>
      intro state reading empty blank
      rw [List.all_cons, Bool.and_eq_true] at blank
      have stepped : state.step char = state := by
        obtain ⟨⟨phase, delimiter, mark⟩, gap⟩ := reading
        have noGap : (!state.token.isEmpty) = state.gap := by simp [empty, gap]
        rw [step, if_neg phase, delimiter]
        simp only [mark, blank.1, noGap, if_true, Bool.false_eq_true, if_false]
        rw [← mark, ← delimiter]
      rw [feed_cons, stepped]
      exact ih reading empty blank.2

/-- A comma behind the first token starts the second one. -/
theorem step_comma {state : ScanState} (between : state.Between) (phase : state.phase = .first)
    (filled : state.first ≠ "") :
    state.step ',' = { state with phase := .second, explicitRange := true, gap := false } := by
  have parted : state.stepAddress ',' = { state with phase := .second, explicitRange := true } := by
    simp [stepAddress, separate, phase, filled]
  rw [step_between between (by decide), parted]

/-- A character that ends the addresses. -/
def IsLetter (char : Char) : Prop :=
  Text.isBlank char = false ∧ isAddressChar char = false ∧
    char ∉ ['%', ';', ',', '/', '?', '\'']

instance (char : Char) : Decidable (IsLetter char) :=
  inferInstanceAs (Decidable (_ ∧ _ ∧ _))

/-- A letter ends the addresses and starts the rest. -/
theorem step_letter {state : ScanState} (between : state.Between) {letter : Char}
    (isLetter : IsLetter letter) :
    state.step letter = { state.startRest letter with gap := false } := by
  obtain ⟨solid, other, plain⟩ := isLetter
  simp only [List.mem_cons, List.not_mem_nil, or_false, not_or] at plain
  have parted : state.stepAddress letter = state.startRest letter := by
    simp [stepAddress, plain, other]
  rw [step_between between solid, parted]

/-- The rest is taken over as it stands. -/
theorem feed_rest (chars : List Char) : ∀ {state : ScanState}, state.phase = .rest →
    state.feed chars = { state with rest := state.rest ++ String.ofList chars } := by
  induction chars with
  | nil => simp [feed]
  | cons char others ih =>
      intro state rest
      rw [feed_cons, step, if_pos rest, ih (by exact rest)]
      simp only [pushRest]
      congr 1
      exact String.ext (by simp)

/-- A text that is empty or starts with a character that ends the addresses. -/
def IsRest (rest : String) : Prop :=
  ∀ letter ∈ rest.toList.head?, IsLetter letter

instance (rest : String) : Decidable (IsRest rest) :=
  decidable_of_iff (rest.toList.head?.all (decide <| IsLetter ·) = true) (by
    simp only [IsRest, Option.all_eq_true, decide_eq_true_eq, Option.mem_def])

/-- A token is a search or a mark by the character that opens it. -/
theorem isLoneTarget_eq (state : ScanState) :
    state.isLoneTarget = state.first.toList.head?.any (['/', '?', '\''].contains ·) := by
  rw [isLoneTarget]
  cases state.first.toList.head? with
  | none => rfl
  | some char => simp [Bool.or_assoc, beq_eq_decide]

/-- **The rest of a line is handed over as it stands**, behind any white space. -/
theorem finish_feed_rest {state : ScanState} (between : state.Between) (empty : state.rest = "")
    {blanks rest : String} (blank : isBlankText blanks = true) (isRest : IsRest rest) :
    ((state.feed blanks.toList).feed rest.toList).finish =
      { first := state.first
        second :=
          if state.second = "" ∧ rest = "" ∧ state.explicitRange = false ∧
            state.isLoneTarget = true
          then state.first else state.second
        rest
        explicitRange := state.explicitRange } := by
  obtain ⟨gap, fed⟩ := feed_blanks blanks.toList between blank
  rw [fed]
  cases chars : rest.toList with
  | nil =>
      have nothing : rest = "" := String.toList_eq_nil_iff.mp chars
      subst nothing
      simp [feed, finish, empty, isLoneTarget, and_assoc]
  | cons letter others =>
      have isLetter : IsLetter letter := isRest letter (by simp [chars])
      have something : rest ≠ "" := by
        rintro rfl
        cases chars
      have behind : ({ state with gap } : ScanState).Between :=
        ⟨between.phase, between.delimiter, between.mark⟩
      have whole : "".push letter ++ String.ofList others = rest :=
        String.ext (by simp [chars])
      rw [feed_cons, step_letter behind isLetter, feed_rest others (by exact rfl)]
      simp only [finish, startRest, pushRest, leaveAddresses, empty, whole]
      simp [something]

end ScanState

/-! ## Written tokens -/

namespace Address

/-- The digits of a base. -/
def WrittenBase.digits : WrittenBase → List Char
  | .number digits _ _ => digits
  | .absent | .point | .last | .mark _ | .search _ _ _ => []

namespace WrittenToken

/-- The numbers of a token are written with the digits of ASCII. -/
structure IsAscii (token : WrittenToken) : Prop where
  base : ∀ char ∈ token.base.digits, char.isDigit = true
  offsets : ∀ offset ∈ token.offsets, ∀ char ∈ offset.digits, char.isDigit = true

instance (token : WrittenToken) : Decidable token.IsAscii :=
  decidable_of_iff ((token.base.digits.all Char.isDigit &&
      token.offsets.all fun offset => offset.digits.all Char.isDigit) = true) (by
    simp only [Bool.and_eq_true, List.all_eq_true]
    exact ⟨fun ⟨base, offsets⟩ => ⟨base, offsets⟩, fun ascii => ⟨ascii.base, ascii.offsets⟩⟩)

/-- A token as a text. -/
def text (token : WrittenToken) : String :=
  String.ofList token.chars

/-- A base of a token is taken up as it is written. -/
theorem takenUp_base {base : WrittenBase} (ascii : ∀ char ∈ base.digits, char.isDigit = true) :
    ScanState.TakenUp base.chars := by
  cases base with
  | absent => exact fun _ _ => rfl
  | point => exact ScanState.takenUp_addressChars (List.all_eq_true.mp rfl)
  | last => exact ScanState.takenUp_addressChars (List.all_eq_true.mp rfl)
  | number digits present decimal =>
      exact ScanState.takenUp_addressChars fun char member =>
        isAddressChar_of_digit (ascii char member)
  | mark name => exact ScanState.takenUp_mark name
  | search isForward body within => exact ScanState.takenUp_search within

/-- **A token is taken up as it is written.** -/
theorem takenUp {token : WrittenToken} (ascii : token.IsAscii) :
    ScanState.TakenUp token.chars := by
  refine (takenUp_base ascii.base).append (ScanState.takenUp_addressChars fun char member => ?_)
  obtain ⟨offset, among, held⟩ := List.mem_flatMap.mp member
  rcases List.mem_cons.mp held with rfl | digit
  · exact isAddressChar_of_sign offset.signed
  · exact isAddressChar_of_digit (ascii.offsets offset among char digit)

/-- A text is split between the base and the offsets that it writes. -/
theorem split_text (token : WrittenToken) :
    split token.text = (String.ofList token.base.chars, String.ofList token.offsetChars) := by
  rw [split, text, String.toList_ofList, token.splitChars_chars]

end WrittenToken

end Address

namespace CommandLine

open ScanState (IsRest)

theorem isBlankText_empty : isBlankText "" = true := rfl

variable {first second : WrittenToken} {leading before behind trailing rest : String}

/-- The scanner behind a first token. -/
theorem feed_first (ascii : first.IsAscii) (blank : isBlankText leading = true) :
    ScanState.feed {} (leading ++ first.text).toList = { first := first.text } := by
  rw [String.toList_append, ScanState.feed_append,
    ScanState.feed_leading _ ScanState.reading_start rfl blank, WrittenToken.text,
    String.toList_ofList, WrittenToken.takenUp ascii _ ScanState.reading_start,
    ScanState.pushChars_first _ (by decide), String.empty_append]

/-- The scanner behind a second token. -/
theorem feed_second (ascii : second.IsAscii) (blank : isBlankText leading = true)
    (token : String) :
    ScanState.feed { phase := .second, first := token, explicitRange := true }
        (leading ++ second.text).toList =
      { phase := .second, first := token, second := second.text, explicitRange := true } := by
  have reading : ScanState.Reading { phase := .second, first := token, explicitRange := true } :=
    ⟨⟨by simp, rfl, rfl⟩, rfl⟩
  rw [String.toList_append, ScanState.feed_append, ScanState.feed_leading _ reading rfl blank,
    WrittenToken.text, String.toList_ofList, WrittenToken.takenUp ascii _ reading,
    ScanState.pushChars_second _ rfl, String.empty_append]

/-- **A line of one address** is scanned as it was written.  A search or a mark that stands alone is
the second address too. -/
theorem scan_one (ascii : first.IsAscii) (blank : isBlankText leading = true)
    (blankBehind : isBlankText trailing = true) (isRest : IsRest rest) :
    scan (leading ++ first.text ++ trailing ++ rest) =
      { first := first.text
        second :=
          if rest = "" ∧ first.text.toList.head?.any (['/', '?', '\''].contains ·) then first.text
          else ""
        rest } := by
  have between : ScanState.Between { first := first.text } := ⟨by simp, rfl, rfl⟩
  rw [scan, String.toList_append, String.toList_append, ScanState.feed_append,
    ScanState.feed_append, feed_first ascii blank,
    ScanState.finish_feed_rest between rfl blankBehind isRest]
  simp only [ScanState.isLoneTarget_eq, true_and]

/-- **A line of two addresses** is scanned as it was written. -/
theorem scan_two (firstAscii : first.IsAscii) (filled : first.text ≠ "")
    (secondAscii : second.IsAscii) (blank : isBlankText leading = true)
    (blankBefore : isBlankText before = true) (blankBehind : isBlankText behind = true)
    (blankTrailing : isBlankText trailing = true) (isRest : IsRest rest) :
    scan (leading ++ first.text ++ before ++ "," ++ (behind ++ second.text) ++ trailing ++ rest) =
      { first := first.text, second := second.text, rest, explicitRange := true } := by
  have between : ScanState.Between
      { phase := .second, first := first.text, second := second.text, explicitRange := true } :=
    ⟨by simp, rfl, rfl⟩
  have parted : ScanState.feed {} (leading ++ first.text ++ before ++ ",").toList =
      { phase := .second, first := first.text, explicitRange := true } := by
    have single : ",".toList = [','] := rfl
    have between : ScanState.Between { first := first.text } := ⟨by simp, rfl, rfl⟩
    obtain ⟨gap, fed⟩ := ScanState.feed_blanks before.toList between blankBefore
    rw [String.toList_append, String.toList_append, ScanState.feed_append, ScanState.feed_append,
      feed_first firstAscii blank, fed, single, ScanState.feed_single,
      ScanState.step_comma ⟨by simp, rfl, rfl⟩ rfl filled]
  rw [scan, String.toList_append, String.toList_append, String.toList_append,
    ScanState.feed_append, ScanState.feed_append, ScanState.feed_append, parted,
    feed_second secondAscii blankBehind,
    ScanState.finish_feed_rest between rfl blankTrailing isRest]
  simp

/-- **The scanner undoes the writing of a line**, and the tokens that it gives are split between the
bases and the offsets that were written. -/
theorem scan_undoes_writing {first second : WrittenToken}
    {leading before behind trailing rest : String} (firstAscii : first.IsAscii)
    (filled : first.text ≠ "") (secondAscii : second.IsAscii)
    (blank : ∀ blanks ∈ [leading, before, behind, trailing], isBlankText blanks = true)
    (isRest : IsRest rest) :
    scan (leading ++ first.text ++ before ++ "," ++ (behind ++ second.text) ++ trailing ++ rest) =
        { first := first.text, second := second.text, rest, explicitRange := true } ∧
      scan (leading ++ first.text ++ before ++ rest) =
        { first := first.text
          second :=
            if rest = "" ∧ first.text.toList.head?.any (['/', '?', '\''].contains ·) then
              first.text
            else ""
          rest
          explicitRange := false } ∧
      Address.split first.text = (String.ofList first.base.chars, String.ofList first.offsetChars) ∧
      Address.split second.text = (String.ofList second.base.chars, String.ofList second.offsetChars) := by
  simp only [List.mem_cons, List.not_mem_nil, or_false, forall_eq_or_imp, forall_eq] at blank
  obtain ⟨blankLeading, blankBefore, blankBehind, blankTrailing⟩ := blank
  refine ⟨?_, ?_, first.split_text, second.split_text⟩
  · exact scan_two firstAscii filled secondAscii blankLeading blankBefore blankBehind blankTrailing
      isRest
  · exact scan_one firstAscii blankLeading blankBefore isRest

theorem scan_undoes_writing_marked :
    scan " /a,b/+2-\t, '% p x" =
        { first := "/a,b/+2-", second := "'%", rest := "p x", explicitRange := true } ∧
      scan " /a,b/+2-\tp x" = { first := "/a,b/+2-", rest := "p x" } ∧
      Address.split "/a,b/+2-" = ("/a,b/", "+2-") ∧ Address.split "'%" = ("'%", "") := by
  have firstAscii : WrittenToken.IsAscii
      { base := .search true ['a', ',', 'b'] (by decide)
        offsets :=
          [⟨'+', ['2'], rfl, List.all_eq_true.mp rfl⟩, ⟨'-', [], rfl, List.all_eq_true.mp rfl⟩] } := by
    decide
  have secondAscii : WrittenToken.IsAscii { base := .mark '%' } := by decide
  have blank : ∀ blanks ∈ [" ", "\t", " ", " "], isBlankText blanks = true := by decide
  have isRest : IsRest "p x" := by decide
  have written := scan_undoes_writing firstAscii (by decide) secondAscii blank isRest
  exact written
end CommandLine

end LineEditor

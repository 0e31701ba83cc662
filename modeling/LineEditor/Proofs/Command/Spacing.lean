import LineEditor.Proofs.Address.Resolving
import LineEditor.Proofs.Command.Scanning
import LineEditor.Proofs.Editor.Reachable

/-!
# White space within an address

Digits that stand behind an address token and white space are added to it: the
scanner puts a plus between the two (`CommandLine.scan_spaced_first`,
`CommandLine.scan_spaced_second`), and the token that comes of it means the line
of the first one plus the number (`Address.resolve_added`).

The scanner puts no plus where the token ends with a sign, because there the
digits are the amount of an offset.  It goes by the last character alone, though,
and takes the name of a mark for the sign of an offset.  So the plus is missing
exactly behind a mark that is named by a sign (`Address.WrittenToken.isSignMark`),
and what comes of such a mark is no address (`CommandLine.implicit_plus_exact`).
-/

set_option autoImplicit false

namespace LineEditor

open LineEditor.Text (isBlank isBlankText)
open LineEditor.Address (WrittenBase WrittenOffset WrittenToken)

/-! ## The end of a token -/

namespace Address

namespace WrittenToken

/-- The offsets of a token, if there are any, end with digits. -/
def Complete (token : WrittenToken) : Prop :=
  ∀ offset ∈ token.offsets.getLast?, offset.digits ≠ []

instance (token : WrittenToken) : Decidable token.Complete :=
  decidable_of_iff (token.offsets.getLast?.all (!·.digits.isEmpty) = true) (by
    simp [Complete, Option.all_eq_true])

/-- Whether a token is a mark that is named by a sign. -/
def isSignMark (token : WrittenToken) : Bool :=
  match token.base, token.offsets with
  | .mark name, [] => isSign name
  | _, _ => false

/-- What the scanner puts between a token and the digits behind white space. -/
def joint (token : WrittenToken) : String :=
  if token.isSignMark then "" else "+"

/-- A token with one more offset behind the others. -/
def add (token : WrittenToken) (digits : List Char)
    (decimal : ∀ char ∈ digits, Text.isDigit char = true) : WrittenToken :=
  { token with offsets := token.offsets ++ [⟨'+', digits, rfl, decimal⟩] }

end WrittenToken

/-- The last of some digits is no sign. -/
theorem getLast?_digits {front digits : List Char} (present : digits ≠ [])
    (decimal : ∀ char ∈ digits, Text.isDigit char = true) :
    (front ++ digits).getLast?.any (!isSign ·) = true := by
  have last : (front ++ digits).getLast? = some (digits.getLast present) := by
    rw [List.getLast?_append, List.getLast?_eq_some_getLast present]
    rfl
  have plain := (isDigit_plain (decimal _ (List.getLast_mem present))).1
  simp [last, plain]

/-- The last character of a base is a sign only if it names a mark. -/
theorem WrittenBase.getLast?_chars {base : WrittenBase} (present : base.chars ≠ []) :
    base.chars.getLast?.any (!isSign ·) = !(WrittenToken.isSignMark { base }) := by
  cases base with
  | absent => exact absurd rfl present
  | point => rfl
  | last => rfl
  | number digits present decimal => exact @getLast?_digits [] digits present decimal
  | mark name => rfl
  | search isForward body closed =>
      rw [chars, ← List.cons_append, List.getLast?_concat]
      cases isForward
      · rfl
      · rfl

/-- **The last character of a token is a sign only if the token is a mark named by one**, as long as
its offsets end with digits. -/
theorem WrittenToken.getLast?_chars {token : WrittenToken} (complete : token.Complete)
    (present : token.chars ≠ []) :
    token.chars.getLast?.any (!isSign ·) = !token.isSignMark := by
  obtain ⟨base, offsets⟩ := token
  rcases List.eq_nil_or_concat offsets with rfl | ⟨front, offset, concat⟩
  · have same : WrittenToken.chars { base } = base.chars := List.append_nil _
    rw [same] at present ⊢
    exact base.getLast?_chars present
  · obtain rfl : offsets = front ++ [offset] := concat.trans (List.concat_eq_append ..)
    have digits : offset.digits ≠ [] := complete offset (by simp)
    have same : WrittenToken.chars ⟨base, front ++ [offset]⟩ =
        (base.chars ++ front.flatMap WrittenOffset.chars ++ [offset.sign]) ++ offset.digits := by
      simp [WrittenToken.chars, WrittenToken.offsetChars, WrittenOffset.chars]
    have unmarked : WrittenToken.isSignMark ⟨base, front ++ [offset]⟩ = false := by
      rw [isSignMark]
      split
      · rename_i none
        simp at none
      · rfl
    rw [same, unmarked]
    exact getLast?_digits digits offset.decimal

/-! ## Resolving -/

/-- Amounts that come behind others are summed up behind them. -/
theorem sumOffsets_append {front : List Offset} {offset : Offset} {sum amount : Int}
    (summed : sumOffsets front = .ok sum) (value : offset.value = .ok amount) :
    sumOffsets (front ++ [offset]) = .ok (sum + amount) := by
  induction front generalizing sum with
  | nil =>
      cases summed
      rw [List.nil_append, sumOffsets, value]
      simp [sumOffsets, bind, Except.bind, pure, Except.pure]
  | cons other rest ih =>
      rw [List.cons_append, sumOffsets]
      rw [sumOffsets] at summed
      cases first : other.value with
      | error fault =>
          rw [first] at summed
          cases summed
      | ok head =>
          cases others : sumOffsets rest with
          | error fault =>
              simp only [first, others, bind, Except.bind] at summed
              cases summed
          | ok tail =>
              simp only [first, others, bind, Except.bind, pure, Except.pure] at summed
              cases summed
              simp only [ih others, bind, Except.bind, pure, Except.pure, Int.add_assoc]

variable {engine : Pattern.Engine} {buffer : Buffer} {marks : Marks} {lastSearch? : Option String}

/-- **One more offset adds its amount** to the line that a token means. -/
theorem resolve_added {token : WrittenToken} {digits : List Char} {line : Int}
    (decimal : ∀ char ∈ digits, Text.isDigit char = true) (present : digits ≠ [])
    (short : digits.length ≤ Text.digitLimit)
    (resolved : (resolve engine buffer marks lastSearch? token.text).1 = .ok line) :
    (resolve engine buffer marks lastSearch? (token.add digits decimal).text).1 =
      .ok (line + Text.digitsValue digits) := by
  have split := token.splitChars_chars
  have splitAdded := (token.add digits decimal).splitChars_chars
  rw [← String.toList_ofList (l := token.chars)] at split
  rw [← String.toList_ofList (l := (token.add digits decimal).chars)] at splitAdded
  obtain ⟨base, sum, based, summed, rfl⟩ := (resolve_eq_ok split).mp resolved
  rw [WrittenToken.text, resolve_eq_ok splitAdded]
  refine ⟨base, sum + Text.digitsValue digits, based, ?_, Int.add_assoc ..⟩
  rw [offsetOf, WrittenToken.readOffsets?_offsetChars] at summed ⊢
  have amount : (WrittenOffset.toOffset ⟨'+', digits, rfl, decimal⟩).value =
      .ok (Text.digitsValue digits : Int) := by
    rw [WrittenOffset.value_short short]
    simp [WrittenOffset.amount, present]
  simp only [WrittenToken.add, List.map_append, List.map_cons, List.map_nil]
  exact sumOffsets_append summed amount

/-- Digits right behind a base that is no number are no offsets. -/
theorem resolve_unjoined {token : WrittenToken} {digits : List Char} {line : Int}
    (marked : token.isSignMark = true)
    (decimal : ∀ char ∈ digits, Text.isDigit char = true) (present : digits ≠ [])
    (resolved : (resolve engine buffer marks lastSearch? token.text).1 = .ok line) :
    (resolve engine buffer marks lastSearch? (token.text ++ String.ofList digits)).1 =
      .error (.refusal (.address (.malformed (token.text ++ String.ofList digits)))) := by
  obtain ⟨base, offsets⟩ := token
  rw [WrittenToken.isSignMark] at marked
  split at marked
  · rename_i name isBase isOffsets
    obtain rfl : base = .mark name := isBase
    obtain rfl : offsets = [] := isOffsets
    have split : splitChars ['\'', name] = (['\'', name], []) := rfl
    have splitMore : splitChars ('\'' :: name :: digits) = (['\'', name], digits) := by
      simp [splitChars]
    have unread : readOffsets? digits = none := by
      have read := readOffsetsFrom_written decimal []
      rw [List.flatMap_nil, List.append_nil] at read
      rw [readOffsets?, read]
      cases digits with
      | nil => exact absurd rfl present
      | cons => rfl
    have chars : (WrittenToken.text ⟨.mark name, []⟩).toList = ['\'', name] := by
      simp [WrittenToken.text, WrittenToken.chars, WrittenBase.chars, WrittenToken.offsetChars]
    rw [← chars] at split
    obtain ⟨line, amount, ⟨remembered?, based⟩, -⟩ := (resolve_eq_ok split).mp resolved
    rw [chars] at based
    rw [resolve, String.toList_append, chars, String.toList_ofList, List.cons_append,
      List.singleton_append, splitMore]
    simp only [based, offsetOf, unread, Except.map]
  · cases marked

end Address

/-! ## Scanning -/

namespace ScanState

/-- White space behind a token is a gap. -/
theorem feed_gap (blanks : List Char) : ∀ {state : ScanState}, state.Between →
    state.token ≠ "" → blanks ≠ [] → blanks.all isBlank = true →
    state.feed blanks = { state with gap := true } := by
  induction blanks with
  | nil => exact fun _ _ none => absurd rfl none
  | cons char rest ih =>
      intro state between filled _ blank
      obtain ⟨phase, delimiter, mark⟩ := between
      rw [List.all_cons, Bool.and_eq_true] at blank
      have stepped : state.step char = { state with gap := true } := by
        simp [step, phase, delimiter, mark, blank.1, filled]
      rw [feed_cons, stepped]
      cases rest with
      | nil => rfl
      | cons other others =>
          exact @ih { state with gap := true } ⟨phase, delimiter, mark⟩ filled
            (List.cons_ne_nil other others) blank.2

/-- The first digit behind a gap is added to the token with a plus, unless the token ends with a
sign. -/
theorem step_behind_gap {state : ScanState} (reading : state.Reading) {digit : Char}
    (isDigit : digit.isDigit = true) :
    ({ state with gap := true } : ScanState).step digit =
      state.pushChars
        (if state.token.toList.getLast?.any (!isSign ·) then ['+', digit] else [digit]) := by
  obtain ⟨⟨phase, delimiter, mark⟩, gap⟩ := reading
  obtain ⟨⟨-, solid⟩, other⟩ := Char.isDigit_plain isDigit
  simp only [List.mem_cons, List.not_mem_nil, or_false, not_or] at other
  have between : ({ state with gap := true } : ScanState).Between := ⟨phase, delimiter, mark⟩
  have address : isAddressChar digit = true := isAddressChar_of_digit isDigit
  rw [step_between between solid]
  have token : ({ state with gap := true } : ScanState).token = state.token := rfl
  simp only [stepAddress, other, if_false, or_self, address, if_true, pushAddress, isDigit,
    Bool.true_and, token]
  by_cases second : state.phase = .second
  · split <;> simp [pushChars, pushToken, second, ← gap]
  · split <;> simp [pushChars, pushToken, second, ← gap]

/-- **Digits behind a token and white space** are added to the token, behind what joins them. -/
theorem feed_spaced {state : ScanState} (reading : state.Reading) {token : WrittenToken}
    (isToken : state.token = token.text) (complete : token.Complete) (filled : token.text ≠ "")
    {blanks digits : List Char} (blank : blanks.all isBlank = true) (gap : blanks ≠ [])
    (decimal : ∀ char ∈ digits, char.isDigit = true) (present : digits ≠ []) :
    (state.feed blanks).feed digits = state.pushChars (token.joint.toList ++ digits) := by
  have token_ne : state.token ≠ "" := isToken ▸ filled
  have chars : state.token.toList = token.chars := by
    rw [isToken, WrittenToken.text, String.toList_ofList]
  have nonempty : token.chars ≠ [] := by
    rw [← chars]
    exact fun none => token_ne (String.toList_eq_nil_iff.mp none)
  obtain ⟨digit, others, rfl⟩ := List.exists_cons_of_ne_nil present
  have first := decimal digit List.mem_cons_self
  rw [feed_gap blanks reading.toBetween token_ne gap blank, feed_cons,
    step_behind_gap reading first, chars, token.getLast?_chars complete nonempty]
  have rest : TakenUp others := takenUp_addressChars fun char member =>
    isAddressChar_of_digit (decimal char (List.mem_cons_of_mem _ member))
  rw [rest _ (reading.pushChars _), ← pushChars_append, WrittenToken.joint]
  cases token.isSignMark
  · rfl
  · rfl

end ScanState

/-- An address token with digits behind it and white space in between. -/
structure Address.WrittenToken.Spaced (token : WrittenToken) (blanks digits : String) : Prop where
  ascii : token.IsAscii
  filled : token.text ≠ ""
  complete : token.Complete
  blank : isBlankText blanks = true
  gap : blanks ≠ ""
  decimal : ∀ char ∈ digits.toList, char.isDigit = true
  present : digits ≠ ""

namespace CommandLine

open ScanState (IsRest)

variable {first token : WrittenToken} {blanks digits rest : String}

/-- White space within the first address. -/
theorem scan_spaced_first (spaced : token.Spaced blanks digits) (isRest : IsRest rest)
    (commanded : rest ≠ "") :
    scan (token.text ++ blanks ++ digits ++ rest) =
      { first := token.text ++ token.joint ++ digits, rest } := by
  have behind : ScanState.feed {} token.text.toList = { first := token.text } := by
    simpa using feed_first spaced.ascii isBlankText_empty
  have reading : ScanState.Reading { first := token.text } := ⟨⟨by simp, rfl, rfl⟩, rfl⟩
  have fed := ScanState.feed_spaced reading rfl spaced.complete spaced.filled spaced.blank
    (mt String.toList_eq_nil_iff.mp spaced.gap) spaced.decimal
    (mt String.toList_eq_nil_iff.mp spaced.present)
  have between : ScanState.Between { first := token.text ++ token.joint ++ digits } :=
    ⟨by simp, rfl, rfl⟩
  have finished := ScanState.finish_feed_rest between rfl isBlankText_empty isRest
  rw [ScanState.pushChars_first _ (by simp), String.ofList_append, String.ofList_toList,
    String.ofList_toList, ← String.append_assoc] at fed
  rw [scan, String.toList_append, String.toList_append, String.toList_append,
    ScanState.feed_append, ScanState.feed_append, ScanState.feed_append, behind, fed]
  simpa [commanded, ScanState.feed] using finished

/-- White space within the second address. -/
theorem scan_spaced_second (spaced : token.Spaced blanks digits) (isRest : IsRest rest)
    (ascii : first.IsAscii) (filled : first.text ≠ "") :
    scan (first.text ++ "," ++ token.text ++ blanks ++ digits ++ rest) =
      { first := first.text
        second := token.text ++ token.joint ++ digits
        rest
        explicitRange := true } := by
  have parted : ScanState.feed {} (first.text ++ ",").toList =
      { phase := .second, first := first.text, explicitRange := true } := by
    have single : ",".toList = [','] := rfl
    have behind : ScanState.feed {} first.text.toList = { first := first.text } := by
      simpa using feed_first ascii isBlankText_empty
    rw [String.toList_append, ScanState.feed_append, behind, single, ScanState.feed_single,
      ScanState.step_comma ⟨by simp, rfl, rfl⟩ rfl filled]
  have behind := feed_second spaced.ascii isBlankText_empty first.text
  rw [String.empty_append] at behind
  have reading : ScanState.Reading
      { phase := .second, first := first.text, second := token.text, explicitRange := true } :=
    ⟨⟨by simp, rfl, rfl⟩, rfl⟩
  have fed := ScanState.feed_spaced reading rfl spaced.complete spaced.filled spaced.blank
    (mt String.toList_eq_nil_iff.mp spaced.gap) spaced.decimal
    (mt String.toList_eq_nil_iff.mp spaced.present)
  have between : ScanState.Between
      { phase := .second, first := first.text, second := token.text ++ token.joint ++ digits,
        explicitRange := true } := ⟨by simp, rfl, rfl⟩
  have finished := ScanState.finish_feed_rest between rfl isBlankText_empty isRest
  rw [ScanState.pushChars_second _ rfl, String.ofList_append, String.ofList_toList,
    String.ofList_toList, ← String.append_assoc] at fed
  rw [scan, String.toList_append, String.toList_append, String.toList_append,
    String.toList_append, ScanState.feed_append, ScanState.feed_append, ScanState.feed_append,
    ScanState.feed_append, parted, behind, fed]
  simpa [ScanState.feed] using finished

/-- A token with a plus and digits behind it is one with one more offset. -/
theorem joined_text (token : WrittenToken) {digits : String}
    (decimal : ∀ char ∈ digits.toList, Text.isDigit char = true) :
    token.text ++ "+" ++ digits = (token.add digits.toList decimal).text := by
  refine String.ext ?_
  simp [WrittenToken.text, WrittenToken.chars, WrittenToken.offsetChars, WrittenToken.add,
    WrittenOffset.chars]

/-- **White space between a token and digits is a plus, unless the token is a mark named by a sign.**
The digits are added to the token, be it the first address or the second one.  With the plus, what
comes of it means the line of the token and as many lines further, whatever the engine, the buffer,
the marks and the remembered search.  Without it the digits are no offset, and the address is
refused. -/
theorem implicit_plus_exact (spaced : token.Spaced blanks digits)
    (short : digits.length ≤ Text.digitLimit) (isRest : IsRest rest) (commanded : rest ≠ "")
    (ascii : first.IsAscii) (filled : first.text ≠ "") :
    let joined := token.text ++ token.joint ++ digits
    scan (token.text ++ blanks ++ digits ++ rest) = { first := joined, rest } ∧
    scan (first.text ++ "," ++ token.text ++ blanks ++ digits ++ rest) =
      { first := first.text, second := joined, rest, explicitRange := true } ∧
    (token.isSignMark = false → joined = token.text ++ "+" ++ digits ∧
      ∀ engine buffer marks lastSearch? line,
        (Address.resolve engine buffer marks lastSearch? token.text).1 = .ok line →
        (Address.resolve engine buffer marks lastSearch? joined).1 =
          .ok (line + Text.digitsValue digits.toList)) ∧
    (token.isSignMark = true → joined = token.text ++ digits ∧
      ∀ engine buffer marks lastSearch? line,
        (Address.resolve engine buffer marks lastSearch? token.text).1 = .ok line →
        (Address.resolve engine buffer marks lastSearch? joined).1 =
          .error (.refusal (.address (.malformed joined)))) := by
  have decimal : ∀ char ∈ digits.toList, Text.isDigit char = true := fun char member =>
    (Char.isDigit_plain (spaced.decimal char member)).1.1
  have present : digits.toList ≠ [] := mt String.toList_eq_nil_iff.mp spaced.present
  refine ⟨scan_spaced_first spaced isRest commanded,
    scan_spaced_second spaced isRest ascii filled, fun unmarked => ?_, fun marked => ?_⟩
  · rw [WrittenToken.joint, unmarked, if_neg Bool.false_ne_true, joined_text token decimal]
    refine ⟨rfl, fun engine buffer marks lastSearch? line resolved => ?_⟩
    rw [← String.length_toList] at short
    exact Address.resolve_added decimal present short resolved
  · rw [WrittenToken.joint, marked, if_pos rfl, String.append_empty]
    refine ⟨rfl, fun engine buffer marks lastSearch? line resolved => ?_⟩
    have unjoined := Address.resolve_unjoined marked decimal present resolved
    rwa [String.ofList_toList] at unjoined

theorem implicit_plus_exact_search :
    scan "/o/-1\t 02p" = { first := "/o/-1+02", rest := "p" } ∧
      scan "1,/o/-1\t 02p" =
        { first := "1", second := "/o/-1+02", rest := "p", explicitRange := true } ∧
      (Address.resolve .usual (.ofLines ["one", "two", "three"]) [] none "/o/-1").1 = .ok 1 ∧
      (Address.resolve .usual (.ofLines ["one", "two", "three"]) [] none "/o/-1+02").1 = .ok 3 := by
  let token : WrittenToken :=
    { base := .search true ['o'] (by decide)
      offsets := [⟨'-', ['1'], rfl, List.all_eq_true.mp rfl⟩] }
  have spaced : token.Spaced "\t " "02" :=
    { ascii := by decide
      filled := by decide
      complete := by decide
      blank := by decide
      gap := by decide
      decimal := List.all_eq_true.mp rfl
      present := by decide }
  let first : WrittenToken := { base := .number ['1'] (by decide) (List.all_eq_true.mp rfl) }
  have isRest : IsRest "p" := by decide
  have ascii : first.IsAscii := by decide
  obtain ⟨one, two, plus, -⟩ :=
    implicit_plus_exact spaced (by decide) isRest (by decide) ascii (by decide)
  have resolved :
      (Address.resolve .usual (.ofLines ["one", "two", "three"]) [] none "/o/-1").1 = .ok 1 := by
    decide +kernel
  exact ⟨one, two, resolved, (plus rfl).2 _ _ _ _ _ resolved⟩

end CommandLine

/-- Behind a mark that is named by a sign the plus is missing, and the address is refused although
the mark is set. -/
theorem Editor.implicit_plus_missing :
    let editor := (ofText "one\ntwo").run ["1k+"]
    editor.Reachable ∧ editor.session.mode = .command ∧
      (Address.resolve editor.platform.engine editor.buffer editor.session.marks
        editor.session.lastSearch? "'+").1 = .ok 1 ∧
      CommandLine.scan "'+ 1p" = { first := "'+1", rest := "p" } ∧
      editor.answer "'+ 1p" = .ok { kind := .error, lines := ["?"] } ∧
      editor.answer "'++1p" = .ok { kind := .text, lines := ["two"] } := by
  refine ⟨(reachable_ofText "one\ntwo").run ["1k+"], ?_, ?_, ?_, eq_ok_of_toOption ?_,
    eq_ok_of_toOption ?_⟩
  · decide +kernel
  · decide +kernel
  · decide
  · decide +kernel
  · decide +kernel

end LineEditor

import LineEditor.Proofs.Address.Meaning

/-!
# Resolving what has been written

The resolver gives a number exactly for the tokens that mean a line, namely that
line's, and refuses every other token (`resolves_exactly`), unless a number is
too long or a pattern unfit (`fails_resolve`).
-/

set_option autoImplicit false

namespace LineEditor.Address

open LineEditor.Text

variable {engine : Pattern.Engine} {buffer : Buffer} {marks : Marks} {lastSearch? : Option String}

/-! ## Bases -/

theorem error_of_map {α β : Type} {outcome : Except Fault α} {change : α → β} {fault : Fault}
    (failed : outcome.map change = .error fault) : outcome = .error fault := by
  cases outcome with
  | error other =>
      cases failed
      rfl
  | ok value => cases failed

/-- A search gives the line that it finds. -/
theorem resolveBase_search {isForward : Bool} {body : List Char} {line : Int} :
    (∃ remembered?, resolveBase engine buffer marks lastSearch? (.search isForward body) =
      .ok (line, remembered?)) ↔ Finds engine buffer lastSearch? isForward body line := by
  rw [← searchLine_eq_ok]
  simp only [resolveBase]
  cases searchLine engine buffer lastSearch? isForward body with
  | error fault => simp [Except.map]
  | ok found =>
      obtain ⟨other, text⟩ := found
      simp [Except.map]

/-- The digits of a base are a number in its characters. -/
theorem WrittenBase.run_digits {digits : List Char} {present : digits ≠ []}
    {decimal : ∀ char ∈ digits, isDigit char = true} (rest : List Char) :
    Run ((WrittenBase.number digits present decimal).chars ++ rest) digits :=
  ⟨(List.prefix_append digits rest).isInfix, decimal⟩

/-- **A base gives the line that it means.** -/
theorem resolveBase_eq_ok {base : WrittenBase} {rest : List Char} (short : Short (base.chars ++ rest))
    {line : Int} :
    (∃ remembered?,
        resolveBase engine buffer marks lastSearch? base.toBase = .ok (line, remembered?)) ↔
      base.Means engine buffer marks lastSearch? line := by
  cases base with
  | absent =>
      constructor
      · rintro ⟨-, ⟨⟩⟩
        exact .absent
      · rintro ⟨⟩
        exact ⟨_, rfl⟩
  | point =>
      constructor
      · rintro ⟨-, ⟨⟩⟩
        exact .point
      · rintro ⟨⟩
        exact ⟨_, rfl⟩
  | last =>
      constructor
      · rintro ⟨-, ⟨⟩⟩
        exact .last
      · rintro ⟨⟩
        exact ⟨_, rfl⟩
  | number digits present decimal =>
      have value := numberedLine_short (short digits (WrittenBase.run_digits rest))
      simp only [resolveBase, WrittenBase.toBase, value]
      constructor
      · rintro ⟨-, ⟨⟩⟩
        exact .number present decimal
      · rintro ⟨⟩
        exact ⟨_, rfl⟩
  | mark name =>
      simp only [resolveBase, WrittenBase.toBase, markedLine]
      cases found : marks.lookup name with
      | none =>
          constructor
          · rintro ⟨-, ⟨⟩⟩
          · intro means
            cases means with
            | mark stored => cases found.symm.trans stored
      | some other =>
          constructor
          · rintro ⟨-, ⟨⟩⟩
            exact .mark found
          · intro means
            cases means with
            | mark stored =>
                cases found.symm.trans stored
                exact ⟨_, rfl⟩
  | search isForward body closed =>
      rw [WrittenBase.toBase, resolveBase_search]
      constructor
      · exact .search closed
      · intro means
        cases means with
        | search _ finds => exact finds

theorem fails_resolveBase {base : WrittenBase} {rest : List Char} {fault : Fault}
    (failed : resolveBase engine buffer marks lastSearch? base.toBase = .error fault) :
    Fails engine lastSearch? (base.chars ++ rest) fault := by
  cases base with
  | absent => cases failed
  | point => cases failed
  | last => cases failed
  | number digits present decimal =>
      exact fails_numberedLine (WrittenBase.run_digits rest) (error_of_map failed)
  | mark name =>
      have unmarked := error_of_map failed
      rw [markedLine] at unmarked
      split at unmarked
      · cases unmarked
      · cases unmarked
        exact .refused _
  | search isForward body closed =>
      have sought : Sought ((WrittenBase.search isForward body closed).chars ++ rest) body := by
        refine ⟨isForward, body ++ searchDelimiter isForward :: rest, ?_, ?_⟩
        · simp [WrittenBase.chars]
        · exact (takeWhile_body closed rest).symm
      exact fails_searchLine sought (error_of_map failed)

/-! ## Offsets -/

/-- The digits of an offset are a number in the characters of its token. -/
theorem WrittenOffset.run_digits {offset : WrittenOffset} {offsets : List WrittenOffset}
    (member : offset ∈ offsets) (front : List Char) :
    Run (front ++ offsets.flatMap WrittenOffset.chars) offset.digits := by
  refine ⟨?_, offset.decimal⟩
  obtain ⟨before, behind, rfl⟩ := List.append_of_mem member
  refine ⟨front ++ before.flatMap WrittenOffset.chars ++ [offset.sign],
    behind.flatMap WrittenOffset.chars, ?_⟩
  simp [WrittenOffset.chars]

/-- The amount of an offset depends on its digits, if there are any. -/
theorem WrittenOffset.value_toOffset (offset : WrittenOffset) :
    offset.toOffset.value =
      (if offset.digits = [] then .ok 1 else numberedLine offset.digits).map
        fun amount => if offset.sign = '+' then amount else -amount := by
  obtain ⟨sign, digits, signed, decimal⟩ := offset
  cases digits with
  | nil =>
      simp only [Offset.value, toOffset, List.isEmpty_nil, if_true]
      by_cases plus : sign = '+'
      · simp [plus, Except.map, pure, Except.pure, bind, Except.bind]
      · simp [plus, Except.map, pure, Except.pure, bind, Except.bind]
  | cons char rest =>
      simp only [Offset.value, toOffset, List.isEmpty_cons, Bool.false_eq_true, if_false,
        reduceCtorEq]
      cases numberedLine (char :: rest) with
      | ok line =>
          by_cases plus : sign = '+'
          · simp [plus, Except.map, pure, Except.pure, bind, Except.bind]
          · simp [plus, Except.map, pure, Except.pure, bind, Except.bind]
      | error fault => rfl

theorem WrittenOffset.value_short {offset : WrittenOffset}
    (short : offset.digits.length ≤ digitLimit) : offset.toOffset.value = .ok offset.amount := by
  have read : (if offset.digits = [] then .ok 1 else numberedLine offset.digits) =
      .ok (if offset.digits = [] then 1 else (digitsValue offset.digits : Int)) := by
    rw [numberedLine_short short]
    split <;> rfl
  rw [value_toOffset, read]
  rfl

theorem fault_value {offset : WrittenOffset} {fault : Fault}
    (failed : offset.toOffset.value = .error fault) :
    numberedLine offset.digits = .error fault := by
  rw [WrittenOffset.value_toOffset] at failed
  have unread := error_of_map failed
  split at unread
  · cases unread
  · exact unread

/-- The amounts of offsets are summed up. -/
theorem sumOffsets_written {offsets : List WrittenOffset}
    (short : ∀ offset ∈ offsets, offset.digits.length ≤ digitLimit) :
    sumOffsets (offsets.map WrittenOffset.toOffset) =
      .ok (offsets.foldr (·.amount + ·) 0) := by
  induction offsets with
  | nil => rfl
  | cons offset rest ih =>
      rw [List.forall_mem_cons] at short
      rw [List.map_cons, sumOffsets, WrittenOffset.value_short short.1, ih short.2]
      rfl

theorem fails_sumOffsets {offsets : List WrittenOffset} {fault : Fault}
    (failed : sumOffsets (offsets.map WrittenOffset.toOffset) = .error fault) :
    ∃ offset ∈ offsets, numberedLine offset.digits = .error fault := by
  induction offsets with
  | nil => cases failed
  | cons offset rest ih =>
      simp only [List.map_cons, sumOffsets, bind, Except.bind] at failed
      split at failed
      · rename_i other valueless
        cases failed
        exact ⟨offset, List.mem_cons_self, fault_value valueless⟩
      · split at failed
        · rename_i other summed
          cases failed
          obtain ⟨other, member, unread⟩ := ih summed
          exact ⟨other, List.mem_cons_of_mem _ member, unread⟩
        · cases failed

/-- **The offsets of a token give their sum.** -/
theorem offsetOf_written {token : WrittenToken} {text : String} (short : Short token.chars) :
    offsetOf text token.offsetChars = .ok token.offset := by
  rw [offsetOf, token.readOffsets?_offsetChars]
  exact sumOffsets_written fun offset member =>
    short _ (WrittenOffset.run_digits member token.base.chars)

/-- What gives a sum has been written as offsets. -/
theorem exists_written_of_offsetOf {text : String} {chars : List Char} {sum : Int}
    (read : offsetOf text chars = .ok sum) :
    ∃ offsets : List WrittenOffset, chars = offsets.flatMap WrittenOffset.chars := by
  rw [offsetOf] at read
  split at read
  · rename_i offsets readOffsets
    obtain ⟨written, same, -⟩ := exists_written_of_readOffsets? readOffsets
    exact ⟨written, same⟩
  · cases read

theorem fails_offsetOf {text : String} {front chars : List Char} {fault : Fault}
    (failed : offsetOf text chars = .error fault) :
    Fails engine lastSearch? (front ++ chars) fault := by
  rw [offsetOf] at failed
  split at failed
  · rename_i offsets readOffsets
    obtain ⟨written, rfl, rfl⟩ := exists_written_of_readOffsets? readOffsets
    obtain ⟨offset, member, unread⟩ := fails_sumOffsets failed
    exact fails_numberedLine (WrittenOffset.run_digits member front) unread
  · cases failed
    exact .refused _

/-! ## Tokens -/

theorem resolve_eq_ok {token : String} {base offsets : List Char}
    (split : splitChars token.toList = (base, offsets)) {value : Int} :
    (resolve engine buffer marks lastSearch? token).1 = .ok value ↔
      ∃ line amount, (∃ remembered?, resolveBase engine buffer marks lastSearch? (.ofChars base) =
        .ok (line, remembered?)) ∧ offsetOf token offsets = .ok amount ∧ value = line + amount := by
  rw [resolve, split]
  dsimp only
  cases resolveBase engine buffer marks lastSearch? (.ofChars base) with
  | error fault => simp
  | ok found =>
      cases offsetOf token offsets with
      | error fault => simp [Except.map]
      | ok amount =>
          obtain ⟨line, remembered?⟩ := found
          simp [Except.map, eq_comm]

theorem resolve_eq_error {token : String} {base offsets : List Char}
    (split : splitChars token.toList = (base, offsets)) {fault : Fault}
    (failed : (resolve engine buffer marks lastSearch? token).1 = .error fault) :
    resolveBase engine buffer marks lastSearch? (.ofChars base) = .error fault ∨
      offsetOf token offsets = .error fault := by
  rw [resolve, split] at failed
  dsimp only at failed
  cases based : resolveBase engine buffer marks lastSearch? (.ofChars base) with
  | error other =>
      rw [based] at failed
      cases failed
      exact .inl rfl
  | ok found =>
      rw [based] at failed
      exact .inr (error_of_map failed)

/-- **What can go wrong with an address** is that it is refused, that a number is too long, or that
a pattern is unfit. -/
theorem fails_resolve {token : String} {fault : Fault}
    (failed : (resolve engine buffer marks lastSearch? token).1 = .error fault) :
    Fails engine lastSearch? token.toList fault := by
  rcases splitChars_cases token.toList with
    ⟨base, rest, same, split⟩ | ⟨isForward, body, absent, same⟩ | same
  · rw [same]
    rcases resolve_eq_error split failed with baseless | offsetless
    · rw [base.ofChars_chars] at baseless
      exact fails_resolveBase baseless
    · exact fails_offsetOf offsetless
  · have split := splitChars_open absent
    rw [← same] at split
    rcases resolve_eq_error split failed with baseless | offsetless
    · rw [same, ofChars_open absent] at baseless
      refine fails_searchLine ⟨isForward, body, same, ?_⟩ (error_of_map baseless)
      rw [eq_comm, List.takeWhile_eq_self_iff]
      rintro char member
      rw [bne_iff_ne]
      rintro rfl
      exact absent member
    · cases offsetless
  · have split : splitChars token.toList = (['\''], []) := by rw [same]; rfl
    rcases resolve_eq_error split failed with baseless | offsetless
    · cases baseless
      exact .refused _
    · cases offsetless

/-- A token that means a line gives that line. -/
theorem resolve_of_means {token : String} (short : Short token.toList) {value : Int}
    (means : Means engine buffer marks lastSearch? token.toList value) :
    (resolve engine buffer marks lastSearch? token).1 = .ok value := by
  generalize same : token.toList = chars at means short
  cases means with
  | @written written line base =>
      have split := written.splitChars_chars
      rw [← same] at split
      rw [resolve_eq_ok split, written.base.ofChars_chars]
      exact ⟨line, written.offset, (resolveBase_eq_ok short).mpr base, offsetOf_written short, rfl⟩
  | unclosed absent found =>
      have split := splitChars_open absent
      rw [← same] at split
      rw [resolve_eq_ok split, same, ofChars_open absent]
      exact ⟨value, 0, resolveBase_search.mpr found, rfl, (Int.add_zero value).symm⟩

/-- A token that gives a line means it. -/
theorem means_of_resolve {token : String} (short : Short token.toList) {value : Int}
    (resolved : (resolve engine buffer marks lastSearch? token).1 = .ok value) :
    Means engine buffer marks lastSearch? token.toList value := by
  rcases splitChars_cases token.toList with
    ⟨base, rest, same, split⟩ | ⟨isForward, body, absent, same⟩ | same
  · obtain ⟨line, amount, based, summed, rfl⟩ := (resolve_eq_ok split).mp resolved
    obtain ⟨offsets, rfl⟩ := exists_written_of_offsetOf summed
    rw [same] at short ⊢
    have read : offsetOf token (WrittenToken.offsetChars ⟨base, offsets⟩) =
        .ok (WrittenToken.offset ⟨base, offsets⟩) := offsetOf_written short
    cases summed.symm.trans read
    rw [base.ofChars_chars] at based
    have means : base.Means engine buffer marks lastSearch? line :=
      (resolveBase_eq_ok short).mp based
    exact @Means.written engine buffer marks lastSearch? ⟨base, offsets⟩ line means
  · have split := splitChars_open absent
    rw [← same] at split
    obtain ⟨line, amount, based, summed, rfl⟩ := (resolve_eq_ok split).mp resolved
    cases summed
    rw [same, ofChars_open absent, resolveBase_search] at based
    rw [same, Int.add_zero]
    exact .unclosed absent based
  · have split : splitChars token.toList = (['\''], []) := by rw [same]; rfl
    obtain ⟨line, amount, ⟨remembered?, based⟩, -⟩ := (resolve_eq_ok split).mp resolved
    cases based

/-- **The resolver accepts exactly the tokens that mean a line**, gives that line, and refuses every
other token. -/
theorem resolves_exactly {token : String} (short : Short token.toList)
    (fit : ∀ body text cause, Sought token.toList body → Asks lastSearch? body text →
      Pattern.read engine text = .error cause → cause = .malformed) :
    (∀ value, (resolve engine buffer marks lastSearch? token).1 = .ok value ↔
      Means engine buffer marks lastSearch? token.toList value) ∧
    ((∀ value, ¬Means engine buffer marks lastSearch? token.toList value) →
      ∃ cause, (resolve engine buffer marks lastSearch? token).1 =
        .error (.refusal (.address cause))) := by
  refine ⟨fun value => ⟨means_of_resolve short, resolve_of_means short⟩, fun meaningless => ?_⟩
  cases resolved : (resolve engine buffer marks lastSearch? token).1 with
  | ok value => exact absurd (means_of_resolve short resolved) (meaningless value)
  | error fault =>
      cases fails_resolve resolved with
      | refused cause => exact ⟨cause, rfl⟩
      | tooLong run excess => exact absurd (short _ run) (by omega)
      | unfit sought asks read other => exact absurd (fit _ _ _ sought asks read) other

theorem resolves_exactly_search :
    (resolve .usual (.ofLines ["one", "two", "three"]) [] none "/t/+").1 = .ok 3 ∧
      Means .usual (.ofLines ["one", "two", "three"]) [] none "/t/+".toList 3 := by
  have short : Short "/t/+".toList := fun digits run =>
    run.part.length_le.trans (by decide)
  have fit : ∀ body text cause, Sought "/t/+".toList body → Asks none body text →
      Pattern.read .usual text = .error cause → cause = .malformed := by
    intro body text cause sought asks read
    have chars : "/t/+".toList = ['/', 't', '/', '+'] := rfl
    rw [chars] at sought
    obtain rfl := sought.body_eq
    obtain rfl : text = "t" := by simpa [Asks] using asks
    have reads : (Pattern.read .usual "t").isOk = true := by decide +kernel
    rw [read] at reads
    cases reads
  have resolved : (resolve .usual (.ofLines ["one", "two", "three"]) [] none "/t/+").1 = .ok 3 := by
    decide +kernel
  exact ⟨resolved, ((resolves_exactly short fit).1 3).mp resolved⟩

end LineEditor.Address

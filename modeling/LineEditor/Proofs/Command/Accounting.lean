import LineEditor.Proofs.Command.Stepping
import Mathlib.Data.List.Basic

/-!
# Every character of a line is accounted for

While a line is being scanned, its phases come in their order, searches and marks
stand within the addresses only, and there is no second token without a first
one (`ScanState.Consistent`).  Behind the addresses nothing but the rest grows,
and so the line is the text of the addresses followed by the rest.

As long as no shorthand replaces the tokens, they hold what the text of the
addresses holds.  The two tokens together consist of letters that the line gives
and of pluses that join (`Letter`).  Without the pluses they are the text of the
addresses less the white space that was skipped and the comma that parts them.

At the end the parts of the line are those that have been read, except that the
first token is the second one too when the scanner has met nothing else and its
base is a search or a mark (`Address.isTarget`).  `CommandLine.scan_accounted` says
all of this of every line.
-/

set_option autoImplicit false

namespace LineEditor

open LineEditor.Text (isBlank)

/-! ## Searches and marks -/

namespace Address

/-- Whether the base of a token is a search or a mark.  Offsets may stand behind it. -/
def isTarget (token : String) : Bool :=
  match Base.ofChars (splitChars token.toList).1 with
  | .search _ _ | .mark _ => true
  | .current | .last | .number _ => false

/-- A token shows by its first character whether its base is a search or a mark. -/
theorem isTarget_eq (token : String) :
    isTarget token = token.toList.head?.any (['/', '?', '\''].contains ·) := by
  rw [isTarget]
  cases token.toList with
  | nil => rfl
  | cons char rest =>
      by_cases search : char = '/' ∨ char = '?'
      · rcases search with rfl | rfl
        · rfl
        · rfl
      by_cases quote : char = '\''
      · subst quote
        rfl
      by_cases named : char = '.' ∨ char = '$'
      · rcases named with rfl | rfl
        · rfl
        · rfl
      -- What is left is a number, or there is no base in front of the offsets.
      simp only [not_or] at search named
      cases digit : Text.isDigit char with
      | true => simp [splitChars, Base.ofChars, search, quote, named, digit]
      | false => simp [splitChars, Base.ofChars, search, quote, named, digit]

end Address

namespace ScanState

variable {state : ScanState}

/-! ## Between two characters -/

/-- What holds of the scanner between any two characters of a line. -/
structure Consistent (state : ScanState) : Prop where
  searching : state.delimiter? ≠ none → state.phase ≠ .rest
  marking : state.inMark = true → state.phase ≠ .rest
  apart : state.delimiter? = none ∨ state.inMark = false
  led : state.second ≠ "" ∨ state.phase = .second → state.first ≠ ""
  ranged : state.second ≠ "" → state.explicitRange = true

theorem Placed.consistent (placed : state.Placed) : state.Consistent where
  searching searching ended := searching (placed.idle ended).1
  marking marking ended := by
    rw [(placed.idle ended).2] at marking
    cases marking
  apart := placed.apart
  led second := by
    rcases second with filled | parted
    · exact (placed.led filled).1
    · exact placed.parted parted
  ranged second := (placed.led second).2

/-- What every step keeps holds all along a line. -/
theorem trace_keeps {kept : ScanState → Prop}
    (keeps : ∀ {state char}, kept state → kept (step state char)) (chars : List Char) :
    ∀ {state : ScanState}, kept state → ∀ later ∈ state.trace chars, kept later := by
  induction chars with
  | nil =>
      intro state _ later member
      cases member
  | cons char rest ih =>
      intro state held later member
      rcases List.mem_cons.mp member with rfl | further
      · exact keeps held
      · exact ih (keeps held) later further

/-- **The phases of a line come in their order.** -/
theorem trace_ordered (chars : List Char) : ∀ state : ScanState,
    (state :: state.trace chars).Pairwise fun earlier later =>
      earlier.phase.rank ≤ later.phase.rank := by
  induction chars with
  | nil => exact fun state => List.pairwise_singleton _ _
  | cons char rest ih =>
      intro state
      refine List.pairwise_cons.mpr ⟨?_, ih (state.step char)⟩
      exact trace_keeps (fun behind => behind.trans (takes_step _ _).rank_le) (char :: rest)
        (Nat.le_refl _)

/-- **The end of a line changes nothing**, except that a search or a mark is the second token too
when nothing but the first token has been met. -/
theorem Placed.finish (placed : state.Placed) :
    state.finish =
      { first := state.first
        second :=
          if state.phase = .first ∧ Address.isTarget state.first then state.first else state.second
        rest := state.rest
        explicitRange := state.explicitRange } := by
  rw [ScanState.finish, isLoneTarget_eq, Address.isTarget_eq]
  congr 1
  cases placed with
  | first phase alone empty single => simp [phase, alone, empty, single]
  | second phase _ _ ranged => simp [phase, ranged]
  | rest phase _ _ _ begun =>
      rcases begun with filled | ranged
      · simp [phase, filled]
      · simp [phase, ranged]

/-! ## What becomes of a line -/

/-- The characters of a line with what becomes of each. -/
def takings (state : ScanState) : List Char → List (Char × Taking)
  | [] => []
  | char :: rest => (char, state.taking char) :: (state.step char).takings rest

end ScanState

/-- The characters of a line that are taken in one of certain ways. -/
def takenAs (ways : Taking → Bool) (takings : List (Char × Taking)) : List Char :=
  (takings.filter fun entry => ways entry.2).map Prod.fst

/-- A character of a token: one that the line gives, or a plus that joins. -/
inductive Letter where
  | given (char : Char)
  | plus

namespace Letter

/-- The character that stands in the token. -/
def char : Letter → Char
  | .given char => char
  | .plus => '+'

/-- The character of the line. -/
def given? : Letter → Option Char
  | .given char => some char
  | .plus => none

/-- What a character of a line adds to the tokens. -/
def ofTaking : Char × Taking → List Letter
  | (char, .kept) => [.given char]
  | (char, .joined) => [.plus, .given char]
  | (_, .skipped) | (_, .parting) | (_, .shorthand) | (_, .passed) => []

end Letter

theorem takenAs_eq_flatMap (ways : Taking → Bool) (takings : List (Char × Taking)) :
    takenAs ways takings =
      takings.flatMap fun entry => if ways entry.2 then [entry.1] else [] := by
  induction takings with
  | nil => rfl
  | cons entry rest ih =>
      rw [List.flatMap_cons, ← ih]
      cases held : ways entry.2 with
      | true => simp [takenAs, held]
      | false => simp [takenAs, held]

/-- The letters that the line gives are the characters that are added to the tokens. -/
theorem given_letters (takings : List (Char × Taking))
    (plain : Taking.shorthand ∉ takings.map Prod.snd) :
    (takings.flatMap Letter.ofTaking).filterMap Letter.given? =
      takenAs (· ∉ [.passed, .skipped, .parting]) takings := by
  rw [List.filterMap_flatMap, takenAs_eq_flatMap]
  refine List.flatMap_congr ?_
  rintro ⟨char, taking⟩ member
  cases taking with
  | kept => rfl
  | joined => rfl
  | skipped => rfl
  | parting => rfl
  | shorthand => exact absurd (List.mem_map_of_mem member) plain
  | passed => rfl

namespace ScanState

variable {state next : ScanState} {char : Char} {taking : Taking}

/-- **What a line adds to a part of the scanner** is what its characters add, one by one. -/
theorem feed_adds {α : Type} (ways : Taking → Prop) (view : ScanState → List α)
    {share : Char × Taking → List α}
    (adds : ∀ {state next : ScanState} {char taking}, state.Placed → ways taking →
      Takes state char taking next → view next = view state ++ share (char, taking))
    (chars : List Char) : ∀ {state : ScanState}, state.Placed →
      (∀ entry ∈ state.takings chars, ways entry.2) →
        view (state.feed chars) = view state ++ (state.takings chars).flatMap share := by
  induction chars with
  | nil =>
      intro state _ _
      exact (List.append_nil _).symm
  | cons char rest ih =>
      intro state placed held
      have takes := takes_step state char
      obtain ⟨here, further⟩ := List.forall_mem_cons.mp held
      rw [feed_cons, ih (takes.placed placed) further, adds placed here takes, takings,
        List.flatMap_cons, List.append_assoc]

/-- The characters of both tokens. -/
def tokenChars (state : ScanState) : List Char :=
  (state.first ++ state.second).toList

/-- Among the addresses, the token being read is the end of both. -/
theorem Placed.tokenChars_pushToken (placed : state.Placed) (addresses : state.phase ≠ .rest)
    (char : Char) : (state.pushToken char).tokenChars = state.tokenChars ++ [char] := by
  cases placed with
  | first phase alone =>
      rw [pushToken_first (by simp [phase])]
      simp [tokenChars, alone]
  | second phase =>
      rw [pushToken_second phase]
      simp [tokenChars]
  | rest phase => exact absurd phase addresses

/-- What a character that is no shorthand adds to the tokens. -/
theorem Takes.adds_letters (placed : state.Placed) (plain : taking ≠ .shorthand)
    (takes : Takes state char taking next) :
    next.tokenChars = state.tokenChars ++ (Letter.ofTaking (char, taking)).map Letter.char := by
  cases takes with
  | kept _ _ _ addresses => exact placed.tokenChars_pushToken addresses char
  | joined between =>
      have addresses : (state.pushToken '+').phase ≠ .rest := by simpa using between.phase
      have pushed := (placed.pushToken between.phase '+').tokenChars_pushToken addresses char
      rw [placed.tokenChars_pushToken between.phase, List.append_assoc] at pushed
      exact pushed
  | skipped => exact (List.append_nil _).symm
  | parting => exact (List.append_nil _).symm
  | shorthand => exact absurd rfl plain
  | ended => exact (List.append_nil _).symm
  | passed => exact (List.append_nil _).symm

/-- **The tokens consist of the letters of the line.** -/
theorem Placed.tokenChars_feed (placed : state.Placed) {chars : List Char}
    (plain : Taking.shorthand ∉ (state.takings chars).map Prod.snd) :
    (state.feed chars).tokenChars =
      state.tokenChars ++ ((state.takings chars).flatMap Letter.ofTaking).map Letter.char := by
  rw [List.map_flatMap]
  refine feed_adds (· ≠ .shorthand) tokenChars Takes.adds_letters chars placed ?_
  rintro entry member replaced
  exact plain (List.mem_map.mpr ⟨entry, member, replaced⟩)

/-! ## The rest and the comma -/

/-- A character that is handed over is added to the rest, and others leave it as it is. -/
theorem Takes.adds_rest (takes : Takes state char taking next) :
    next.rest.toList = state.rest.toList ++ if taking == .passed then [char] else [] := by
  cases takes with
  | kept => simp
  | joined => simp
  | skipped => simp
  | parting => simp
  | shorthand => simp [setRange, leaveAddresses]
  | ended => simp [startRest, leaveAddresses, pushRest]
  | passed => simp [pushRest]

/-- **The rest consists of the characters that are handed over.** -/
theorem Placed.rest_feed (placed : state.Placed) (chars : List Char) :
    (state.feed chars).rest.toList =
      state.rest.toList ++ takenAs (· == .passed) (state.takings chars) := by
  rw [takenAs_eq_flatMap]
  exact feed_adds (fun _ => True) (fun state => state.rest.toList)
    (fun _ _ takes => takes.adds_rest) chars placed fun _ _ => trivial

/-- The comma between the tokens, where there are two. -/
def separator (state : ScanState) : List Char :=
  if state.explicitRange then [','] else []

/-- As long as no shorthand replaces the tokens, nothing but a comma asks for two. -/
theorem Takes.adds_separator (placed : state.Placed) (plain : taking ≠ .shorthand)
    (takes : Takes state char taking next) :
    next.separator = state.separator ++ if taking == .parting then [char] else [] := by
  cases takes with
  | kept => simp [separator]
  | joined => simp [separator]
  | skipped => simp [separator]
  | parting _ comma first =>
      cases placed with
      | first _ _ _ single => simp [separator, comma, single]
      | second phase => exact absurd (phase.symm.trans first) (by decide)
      | rest phase => exact absurd (phase.symm.trans first) (by decide)
  | shorthand => exact absurd rfl plain
  | ended => exact (List.append_nil _).symm
  | passed => exact (List.append_nil _).symm

/-- **At most one comma parts the tokens.** -/
theorem Placed.separator_feed (placed : state.Placed) {chars : List Char}
    (plain : Taking.shorthand ∉ (state.takings chars).map Prod.snd) :
    (state.feed chars).separator =
      state.separator ++ takenAs (· == .parting) (state.takings chars) := by
  rw [takenAs_eq_flatMap]
  refine feed_adds (· ≠ .shorthand) separator Takes.adds_separator chars placed ?_
  rintro entry member replaced
  exact plain (List.mem_map.mpr ⟨entry, member, replaced⟩)

/-- Behind a character that is handed over the addresses are over. -/
theorem Takes.phase_rest (takes : Takes state char .passed next) : next.phase = .rest := by
  cases takes with
  | ended => rfl
  | passed rest => exact rest

/-- Behind the addresses every character is handed over. -/
theorem takings_rest (chars : List Char) : ∀ {state : ScanState}, state.phase = .rest →
    state.takings chars = chars.map fun char => (char, .passed) := by
  induction chars with
  | nil => exact fun _ => rfl
  | cons char rest ih =>
      intro state ended
      have passed : state.taking char = .passed := if_pos ended
      have still : (state.step char).phase = .rest := by
        rw [ScanState.step, if_pos ended]
        exact ended
      rw [takings, passed, ih still, List.map_cons]

/-- **What is handed over comes behind everything else.** -/
theorem takings_parted (chars : List Char) : ∀ state : ScanState,
    chars = takenAs (· != .passed) (state.takings chars) ++
      takenAs (· == .passed) (state.takings chars) := by
  induction chars with
  | nil => exact fun _ => rfl
  | cons char rest ih =>
      intro state
      have takes := takes_step state char
      by_cases passed : state.taking char = .passed
      · rw [passed] at takes
        rw [takings, passed, takings_rest rest takes.phase_rest]
        simp [takenAs, List.filter_map, Function.comp_def]
      · have further := ih (state.step char)
        rw [takings]
        simpa [takenAs, passed] using further

/-- What becomes of a character of a line, it becomes of it in some state of the scanner. -/
theorem exists_of_mem_takings {entry : Char × Taking} (chars : List Char) :
    ∀ {state : ScanState}, entry ∈ state.takings chars →
      ∃ reached : ScanState, reached.taking entry.1 = entry.2 := by
  induction chars with
  | nil =>
      intro state member
      cases member
  | cons char rest ih =>
      intro state member
      rcases List.mem_cons.mp member with rfl | further
      · exact ⟨state, rfl⟩
      · exact ih further

theorem Takes.isBlank (takes : Takes state char .skipped next) : isBlank char = true := by
  cases takes with
  | skipped _ blank => exact blank

/-- Only white space is skipped. -/
theorem isBlank_of_skipped {chars : List Char} {char : Char}
    (skipped : char ∈ takenAs (· == .skipped) (state.takings chars)) : isBlank char = true := by
  obtain ⟨⟨char, taking⟩, member, rfl⟩ := List.mem_map.mp skipped
  obtain ⟨among, way⟩ := List.mem_filter.mp member
  obtain ⟨reached, reads⟩ := exists_of_mem_takings chars among
  obtain rfl : taking = .skipped := by simpa using way
  have takes := takes_step reached char
  rw [reads] at takes
  exact takes.isBlank

end ScanState

/-! ## A whole line -/

namespace CommandLine

/-- The scanner in front of a line and behind each of its characters. -/
def states (line : String) : List ScanState :=
  {} :: ScanState.trace {} line.toList

/-- The scanner behind a line. -/
def lastState (line : String) : ScanState :=
  ScanState.feed {} line.toList

/-- The characters of a line with what becomes of each. -/
def takings (line : String) : List (Char × Taking) :=
  ScanState.takings {} line.toList

/-- The letters that a line adds to the tokens. -/
def letters (line : String) : List Letter :=
  (takings line).flatMap Letter.ofTaking

theorem placed_of_mem_states {line : String} {state : ScanState} (member : state ∈ states line) :
    state.Placed := by
  rcases List.mem_cons.mp member with rfl | further
  · exact ScanState.placed_start
  · exact ScanState.trace_keeps (fun placed => (ScanState.takes_step _ _).placed placed)
      line.toList ScanState.placed_start state further

theorem placed_lastState (line : String) : (lastState line).Placed :=
  ScanState.placed_start.feed line.toList

/-- **A line is the text of its addresses and then its rest.** -/
theorem text_append_rest (line : String) :
    line.toList = takenAs (· != .passed) (takings line) ++ (scan line).rest.toList := by
  have rest := ScanState.placed_start.rest_feed line.toList
  have parted := ScanState.takings_parted line.toList {}
  rw [String.toList_empty, List.nil_append] at rest
  rwa [← rest] at parted

/-- **Every character of a line is accounted for.**  The phases come in their order, and between any
two characters the scanner is consistent; in the last phase it adds the next character to the rest
and does nothing else.  So the line is the text of its addresses and then its rest.  The end of
the line changes nothing, except that a search or a mark, with its offsets, is the second token too
when nothing but the first token has been met.

If no shorthand has replaced the tokens, then they consist of letters that the line gives and of
pluses; those that the line gives are the text of the addresses without the white space that was
skipped and without the one comma that parts the tokens, if there are two. -/
theorem scan_accounted (line : String) :
    (states line).Pairwise (fun earlier later => earlier.phase.rank ≤ later.phase.rank) ∧
      (∀ state ∈ states line, state.Consistent ∧
        (state.phase = .rest → ∀ char, state.step char = state.pushRest char)) ∧
      line.toList = takenAs (· != .passed) (takings line) ++ (scan line).rest.toList ∧
      ((scan line).first = (lastState line).first ∧
        (scan line).second =
          (if (lastState line).phase = .first ∧ Address.isTarget (lastState line).first then
            (lastState line).first
          else (lastState line).second) ∧
        (scan line).rest = (lastState line).rest ∧
        (scan line).explicitRange = (lastState line).explicitRange) ∧
      (.shorthand ∉ (takings line).map Prod.snd →
        (letters line).map Letter.char =
            ((lastState line).first ++ (lastState line).second).toList ∧
          (letters line).filterMap Letter.given? =
            takenAs (· ∉ [.passed, .skipped, .parting]) (takings line) ∧
          (∀ char ∈ takenAs (· == .skipped) (takings line), isBlank char = true) ∧
          takenAs (· == .parting) (takings line) =
            if (lastState line).explicitRange then [','] else []) := by
  have finished := (placed_lastState line).finish
  refine ⟨ScanState.trace_ordered line.toList {}, ?_, text_append_rest line,
    ⟨rfl, congrArg second finished, rfl, rfl⟩, ?_⟩
  · intro state member
    refine ⟨(placed_of_mem_states member).consistent, fun ended char => ?_⟩
    rw [ScanState.step, if_pos ended]
  · intro plain
    have tokens := ScanState.placed_start.tokenChars_feed plain
    have separator := ScanState.placed_start.separator_feed plain
    exact ⟨tokens.symm, given_letters (takings line) plain,
      fun _ => ScanState.isBlank_of_skipped, separator.symm⟩

theorem scan_accounted_spaced :
    (∃ state ∈ states "/a b/ 2 ,'% p  q", state.phase = .rest ∧ state.rest = "p" ∧
        state.step ' ' = state.pushRest ' ') ∧
      (scan "/a b/ 2 ,'% p  q").second = "'%" ∧
      .shorthand ∉ (takings "/a b/ 2 ,'% p  q").map Prod.snd ∧
      (letters "/a b/ 2 ,'% p  q").map Letter.char = "/a b/+2'%".toList ∧
      (letters "/a b/ 2 ,'% p  q").filterMap Letter.given? = "/a b/2'%".toList ∧
      takenAs (· == .parting) (takings "/a b/ 2 ,'% p  q") = [','] := by
  have plain : .shorthand ∉ (takings "/a b/ 2 ,'% p  q").map Prod.snd := by decide
  obtain ⟨-, held, -, ⟨-, second, -⟩, accounted⟩ := scan_accounted "/a b/ 2 ,'% p  q"
  obtain ⟨tokens, given, -, comma⟩ := accounted plain
  have last : lastState "/a b/ 2 ,'% p  q" =
      ⟨.rest, "/a b/+2", "'%", "p  q", none, false, false, true⟩ := by decide
  have member : (⟨.rest, "/a b/+2", "'%", "p", none, false, false, true⟩ : ScanState) ∈
      states "/a b/ 2 ,'% p  q" := by decide
  rw [last] at second tokens comma
  exact ⟨⟨_, member, rfl, rfl, (held _ member).2 rfl ' '⟩, second.trans (by decide), plain,
    tokens.trans (by decide), given.trans (by decide), comma⟩

end CommandLine

end LineEditor

import LineEditor.Proofs.Command.Scanning

/-!
# What the scanner does with a character

Six things can become of a character of a command line (`Taking`).  Among the
addresses it is added to the token being read, as it is or behind a plus that the
line does not hold; or it is passed over, being white space or the comma between
the tokens; or it is a shorthand and replaces the tokens.  From the letter on
every character goes to the rest.

`ScanState.taking` says which of them it is, and `ScanState.Takes` what is known
of the scanner then and what it is like behind the character.  Every step of the
scanner is such a one (`ScanState.takes_step`).  So what a step keeps is shown by
cases on what becomes of its character, and not on the tests that the scanner
makes: the order of the phases (`ScanState.Takes.rank_le`), and what holds in each
of them (`ScanState.Takes.placed`).
-/

set_option autoImplicit false

namespace LineEditor

open LineEditor.Text (isBlank)

/-- What becomes of a character of a command line. -/
inductive Taking where
  /-- It is added to the token being read. -/
  | kept
  /-- It is a digit and is added to the token behind a plus. -/
  | joined
  /-- It is white space outside of searches and marks. -/
  | skipped
  /-- It is the comma between the tokens. -/
  | parting
  /-- It stands for two tokens. -/
  | shorthand
  /-- It belongs to the rest. -/
  | passed
  deriving DecidableEq

namespace ScanState

/-- Whether a digit is added to the token behind a plus. -/
def joins (state : ScanState) (char : Char) : Bool :=
  state.gap && char.isDigit && state.token.toList.getLast?.any fun last => !isSign last

/-- What becomes of a comma outside of searches and marks. -/
def takingComma (state : ScanState) : Taking :=
  if state.phase = .second then .passed
  else if state.first.isEmpty then .shorthand
  else .parting

/-- What becomes of a character that is neither white space nor part of a search or a mark. -/
def takingAddress (state : ScanState) (char : Char) : Taking :=
  if char = '%' then .shorthand
  else if char = ';' then .shorthand
  else if char = ',' then state.takingComma
  else if char = '/' ∨ char = '?' then .kept
  else if char = '\'' then .kept
  else if isAddressChar char then if state.joins char then .joined else .kept
  else .passed

/-- What becomes of a character. -/
def taking (state : ScanState) (char : Char) : Taking :=
  if state.phase = .rest then .passed
  else if state.delimiter?.isSome ∨ state.inMark then .kept
  else if isBlank char then .skipped
  else state.takingAddress char

/-- The scanner is not at once inside of a search and behind the quote of a mark. -/
def Apart (state : ScanState) : Prop :=
  state.delimiter? = none ∨ state.inMark = false

/-- A character, what becomes of it, and the scanner behind it.  The letter that ends the addresses
and what comes behind it belong to the rest alike. -/
inductive Takes (state : ScanState) (char : Char) : Taking → ScanState → Prop where
  | kept (delimiter? : Option Char) (inMark gap : Bool) (addresses : state.phase ≠ .rest)
      (apart : state.Apart → delimiter? = none ∨ inMark = false) :
      Takes state char .kept { state.pushToken char with delimiter?, inMark, gap }
  | joined (between : state.Between) (joins : state.joins char = true) :
      Takes state char .joined { (state.pushToken '+').pushToken char with gap := false }
  | skipped (between : state.Between) (blank : isBlank char = true) :
      Takes state char .skipped { state with gap := !state.token.isEmpty }
  | parting (between : state.Between) (comma : char = ',') (first : state.phase = .first)
      (filled : state.first ≠ "") :
      Takes state char .parting
        { state with phase := .second, explicitRange := true, gap := false }
  | shorthand (between : state.Between) (first : String) (filled : first ≠ "") :
      Takes state char .shorthand { state.setRange first "$" with gap := false }
  | ended (between : state.Between) :
      Takes state char .passed { state.startRest char with gap := false }
  | passed (rest : state.phase = .rest) : Takes state char .passed (state.pushRest char)

/-! ## The token being read -/

section PushToken

variable (state : ScanState) (char : Char)

/-- Adding to the token changes nothing but the tokens. -/
theorem pushToken_eq : state.pushToken char =
    { state with
      first := (state.pushToken char).first
      second := (state.pushToken char).second } := by
  rw [pushToken]
  split
  · rfl
  · rfl

@[simp] theorem pushToken_phase : (state.pushToken char).phase = state.phase := by
  rw [pushToken_eq]

@[simp] theorem pushToken_rest : (state.pushToken char).rest = state.rest := by
  rw [pushToken_eq]

@[simp] theorem pushToken_delimiter? :
    (state.pushToken char).delimiter? = state.delimiter? := by
  rw [pushToken_eq]

@[simp] theorem pushToken_inMark : (state.pushToken char).inMark = state.inMark := by
  rw [pushToken_eq]

@[simp] theorem pushToken_explicitRange :
    (state.pushToken char).explicitRange = state.explicitRange := by
  rw [pushToken_eq]

end PushToken

/-! ## Steps -/

variable {state : ScanState} {char : Char}

/-- A comma parts the tokens, unless one of them is empty or the second one is being read. -/
theorem takes_comma (between : state.Between) :
    Takes state ',' state.takingComma { state.separate ',' with gap := false } := by
  rw [takingComma, separate]
  split
  · exact .ended between
  · rename_i unparted
    split
    · exact .shorthand between "1" (by decide)
    · rename_i filled
      have first : state.phase = .first := by
        cases phase : state.phase with
        | first => rfl
        | second => exact absurd phase unparted
        | rest => exact absurd phase between.phase
      exact .parting between rfl first (by simpa using filled)

/-- A character of an address is added to the token, with a plus or without. -/
theorem takes_addressChar (between : state.Between) :
    Takes state char (if state.joins char then .joined else .kept)
      { state.pushAddress char with gap := false } := by
  have pushed : state.pushAddress char =
      (if state.joins char then state.pushToken '+' else state).pushToken char := rfl
  rw [pushed]
  split
  · rename_i joins
    exact .joined between joins
  · exact .kept _ _ _ between.phase fun _ => .inl (by simpa using between.delimiter)

/-- Outside of searches and marks, a character that is no white space is taken in as
`takingAddress` says. -/
theorem takes_stepAddress (between : state.Between) :
    Takes state char (state.takingAddress char) { state.stepAddress char with gap := false } := by
  rw [takingAddress, stepAddress]
  split
  · exact .shorthand between "1" (by decide)
  split
  · exact .shorthand between "." (by decide)
  split
  · rename_i comma
    subst comma
    exact takes_comma between
  split
  · exact .kept _ _ _ between.phase fun _ => .inr (by simpa using between.mark)
  split
  · exact .kept _ _ _ between.phase fun _ => .inl (by simpa using between.delimiter)
  split
  · exact takes_addressChar between
  · exact .ended between

/-- **A step of the scanner takes its character in as `taking` says.** -/
theorem takes_step (state : ScanState) (char : Char) :
    Takes state char (state.taking char) (state.step char) := by
  rw [taking, step]
  split
  · rename_i rest
    exact .passed rest
  rename_i addresses
  cases delimiter : state.delimiter? with
  | some opening =>
      simp only [Option.isSome_some, true_or, if_true]
      split
      · exact .kept _ _ _ addresses fun _ => .inl rfl
      · refine .kept _ _ _ addresses fun apart => .inr ?_
        rcases apart with unsearched | unmarked
        · rw [delimiter] at unsearched
          cases unsearched
        · exact (pushToken_inMark state char).trans unmarked
  | none =>
      cases mark : state.inMark with
      | true =>
          simp only [or_true, if_true]
          exact .kept _ _ _ addresses fun _ => .inr rfl
      | false =>
          have between : state.Between := ⟨addresses, delimiter, mark⟩
          simp only [Option.isSome_none, Bool.false_eq_true, or_self, if_false]
          split
          · rename_i blank
            have skipped := Takes.skipped between blank
            rwa [delimiter, mark] at skipped
          · exact takes_stepAddress between

/-! ## Phases -/

end ScanState

/-- The place of a phase in the order in which they come. -/
def Phase.rank : Phase → Nat
  | .first => 0
  | .second => 1
  | .rest => 2

theorem Phase.rank_le_rest (phase : Phase) : phase.rank ≤ Phase.rank .rest := by
  cases phase with
  | first => decide
  | second => decide
  | rest => decide

namespace ScanState

variable {state next : ScanState} {char : Char} {taking : Taking}

/-- No character leads back to an earlier phase. -/
theorem Takes.rank_le (takes : Takes state char taking next) :
    state.phase.rank ≤ next.phase.rank := by
  cases takes with
  | kept => simp
  | joined => simp
  | skipped => exact Nat.le_refl _
  | parting _ _ first _ =>
      rw [first]
      exact Nat.zero_le _
  | shorthand => exact state.phase.rank_le_rest
  | ended => exact state.phase.rank_le_rest
  | passed => exact Nat.le_refl _

/-- What holds of the scanner in each of its phases. -/
inductive Placed (state : ScanState) : Prop where
  | first (phase : state.phase = .first) (alone : state.second = "") (empty : state.rest = "")
      (single : state.explicitRange = false) (apart : state.Apart)
  | second (phase : state.phase = .second) (led : state.first ≠ "") (empty : state.rest = "")
      (ranged : state.explicitRange = true) (apart : state.Apart)
  | rest (phase : state.phase = .rest) (unsearched : state.delimiter? = none)
      (unmarked : state.inMark = false)
      (led : state.second ≠ "" → state.first ≠ "" ∧ state.explicitRange = true)
      (begun : state.rest ≠ "" ∨ state.explicitRange = true)

theorem placed_start : Placed {} :=
  .first rfl rfl rfl rfl (.inl rfl)

/-- The scanner may be inside of a search or behind the quote of a mark. -/
theorem Placed.within (placed : state.Placed) (addresses : state.phase ≠ .rest)
    {delimiter? : Option Char} {inMark : Bool} (gap : Bool)
    (apart : delimiter? = none ∨ inMark = false) :
    Placed { state with delimiter?, inMark, gap } := by
  cases placed with
  | first phase alone empty single _ => exact .first phase alone empty single apart
  | second phase led empty ranged _ => exact .second phase led empty ranged apart
  | rest phase => exact absurd phase addresses

/-- Adding to the token leaves the scanner in its phase. -/
theorem Placed.pushToken (placed : state.Placed) (addresses : state.phase ≠ .rest) (char : Char) :
    (state.pushToken char).Placed := by
  cases placed with
  | first phase alone empty single apart =>
      rw [pushToken_first (by simp [phase])]
      exact .first phase alone empty single apart
  | second phase led empty ranged apart =>
      rw [pushToken_second phase]
      exact .second phase led empty ranged apart
  | rest phase => exact absurd phase addresses

theorem Placed.apart (placed : state.Placed) : state.Apart := by
  cases placed with
  | first _ _ _ _ apart => exact apart
  | second _ _ _ _ apart => exact apart
  | rest _ unsearched => exact .inl unsearched

/-- The second token is filled only behind a first one, and only where two were asked for. -/
theorem Placed.led (placed : state.Placed) (second : state.second ≠ "") :
    state.first ≠ "" ∧ state.explicitRange = true := by
  cases placed with
  | first _ alone => exact absurd alone second
  | second _ led _ ranged => exact ⟨led, ranged⟩
  | rest _ _ _ led => exact led second

theorem Placed.parted (placed : state.Placed) (second : state.phase = .second) :
    state.first ≠ "" := by
  cases placed with
  | first phase =>
      rw [phase] at second
      cases second
  | second _ led => exact led
  | rest phase =>
      rw [phase] at second
      cases second

/-- Behind the addresses no search and no mark is being read. -/
theorem Placed.idle (placed : state.Placed) (ended : state.phase = .rest) :
    state.delimiter? = none ∧ state.inMark = false := by
  cases placed with
  | first phase =>
      rw [phase] at ended
      cases ended
  | second phase =>
      rw [phase] at ended
      cases ended
  | rest _ unsearched unmarked => exact ⟨unsearched, unmarked⟩

/-- **Every character leaves the scanner in one of its phases.** -/
theorem Takes.placed (takes : Takes state char taking next) (placed : state.Placed) :
    next.Placed := by
  cases takes with
  | kept delimiter? inMark gap addresses apart =>
      exact (placed.pushToken addresses char).within (by simpa using addresses) gap
        (apart placed.apart)
  | joined between _ =>
      have pushed := placed.pushToken between.phase '+'
      have addresses : (state.pushToken '+').phase ≠ .rest := by simpa using between.phase
      exact (pushed.pushToken addresses char).within (by simpa using between.phase) false
        (.inl (by simpa using between.delimiter))
  | skipped between _ => exact placed.within between.phase _ (.inl between.delimiter)
  | parting between _ _ filled =>
      cases placed with
      | first _ _ empty => exact .second rfl filled empty rfl (.inl between.delimiter)
      | second _ _ empty => exact .second rfl filled empty rfl (.inl between.delimiter)
      | rest phase => exact absurd phase between.phase
  | shorthand _ _ filled => exact .rest rfl rfl rfl (fun _ => ⟨filled, rfl⟩) (.inr rfl)
  | ended _ => exact .rest rfl rfl rfl placed.led (.inl (by simp [startRest, pushRest]))
  | passed rest =>
      obtain ⟨unsearched, unmarked⟩ := placed.idle rest
      exact .rest rest unsearched unmarked placed.led (.inl (by simp [pushRest]))

theorem Placed.feed (placed : state.Placed) (chars : List Char) : (state.feed chars).Placed := by
  induction chars generalizing state with
  | nil => exact placed
  | cons char rest ih => exact ih ((takes_step state char).placed placed)

end ScanState

end LineEditor

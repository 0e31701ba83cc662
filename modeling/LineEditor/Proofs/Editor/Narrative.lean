import LineEditor.Proofs.Editor.Entries
import LineEditor.Proofs.Editor.Reporting
import Mathlib.Data.List.Chain

/-!
# The events of a session

The events that a host is told follow the session.  What a line adds to them
goes by what becomes of the line (`Editor.ToldAsCommand`), so from the events
alone a host can tell the mode and whether the session has ended.

For a whole run of lines, `Editor.Narrated` says what is true of the events so
far: texts begin and end in turn (`Event.Fit`), the end of the session comes
last, and between the beginning of a text and its end stands nothing.  An end
counts the lines of its text, and these lines stand behind the place that its
beginning names (`Editor.TextBetween`).  Each line keeps that so
(`Editor.Narrated.next`), and `Editor.events_follow_session` puts it together.
-/

set_option autoImplicit false

namespace LineEditor

/-! ## Turns -/

/-- Of two parts, an item and what comes around it, the item is in the first part or in the
second. -/
theorem split_append {α : Type} {old new front rest : List α} {item : α}
    (same : old ++ new = front ++ item :: rest) :
    (∃ more, old = front ++ item :: more) ∨
      ∃ gap, front = old ++ gap ∧ new = gap ++ item :: rest := by
  rcases List.append_eq_append_iff.mp same with ⟨gap, isFront, isNew⟩ | ⟨gap, isOld, isRest⟩
  · exact .inr ⟨gap, isFront, isNew⟩
  · cases gap with
    | nil => exact .inr ⟨[], by simpa using isOld.symm, by simpa using isRest.symm⟩
    | cons head more =>
        obtain ⟨rfl, -⟩ := List.cons.inj isRest
        exact .inl ⟨more, isOld⟩

namespace Event

/-- Whether an event begins a text or ends one. -/
def turn? : Event → Option Bool
  | .textBegun _ => some true
  | .textEnded _ => some false
  | _ => none

/-- The beginnings and ends of texts among events. -/
def turns (events : List Event) : List Bool :=
  events.filterMap turn?

/-- Texts begin and end in turn, as if one had ended before the first event. -/
def InTurn (events : List Event) : Prop :=
  (false :: turns events).IsChain (· ≠ ·)

/-- Whether a text has begun that has not ended. -/
def unfinished (events : List Event) : Bool :=
  (turns events).getLast?.getD false

variable {events new : List Event}

@[simp] theorem turns_append : turns (events ++ new) = turns events ++ turns new :=
  List.filterMap_append

theorem false_mem_turns : false ∈ turns events ↔ ∃ count, .textEnded count ∈ events := by
  simp only [turns, List.mem_filterMap]
  constructor
  · rintro ⟨event, member, isEnd⟩
    cases event with
    | textEnded count => exact ⟨count, member⟩
    | _ => cases isEnd
  · rintro ⟨count, member⟩
    exact ⟨_, member, rfl⟩

/-- What comes in its turn may be added. -/
theorem InTurn.append (inTurn : InTurn events) {turn : Bool} (isTurn : turns new = [turn])
    (other : unfinished events ≠ turn) : InTurn (events ++ new) := by
  rw [InTurn, turns_append, isTurn, ← List.cons_append]
  refine List.IsChain.append inTurn (.singleton turn) ?_
  intro latest isLatest next isNext
  rw [List.getLast?_cons, Option.mem_some_iff] at isLatest
  rw [List.head?_cons, Option.mem_some_iff] at isNext
  rwa [← isLatest, ← isNext]

theorem unfinished_append {turn : Bool} (isTurn : turns new = [turn]) :
    unfinished (events ++ new) = turn := by
  rw [unfinished, turns_append, isTurn, List.getLast?_concat, Option.getD_some]

/-- Between two beginnings there is an end. -/
theorem InTurn.exists_end {front between : List Event} {place other : Int}
    (inTurn : InTurn (front ++ .textBegun place :: between)) (begun : .textBegun other ∈ between) :
    ∃ count, .textEnded count ∈ between := by
  have member : true ∈ turns between := List.mem_filterMap.mpr ⟨_, begun, rfl⟩
  rw [InTurn, turns_append, ← List.cons_append] at inTurn
  have chain : (true :: turns between).IsChain (· ≠ ·) := inTurn.right_of_append
  rw [← false_mem_turns]
  cases inner : turns between with
  | nil =>
      rw [inner] at member
      cases member
  | cons turn rest =>
      rw [inner, List.isChain_cons_cons] at chain
      have isEnd : turn = false := by simpa using chain.1.symm
      rw [isEnd]
      exact List.mem_cons_self

/-- A beginning behind which no text ends is the last event, if that is a beginning at all. -/
theorem InTurn.eq_nil_of_last {front between earlier : List Event} {place latest : Int}
    (inTurn : InTurn (front ++ .textBegun place :: between))
    (isLast : front ++ .textBegun place :: between = earlier ++ [.textBegun latest])
    (unended : ∀ count, .textEnded count ∉ between) : between = [] := by
  rcases List.eq_nil_or_concat between with isNil | ⟨init, event, isConcat⟩
  · exact isNil
  · rw [isConcat, List.concat_eq_append, ← List.cons_append, ← List.append_assoc] at isLast
    have isBegun := (List.append_inj' isLast rfl).2
    rw [List.singleton_inj] at isBegun
    have begun : .textBegun latest ∈ between := by
      rw [isConcat, isBegun, List.concat_eq_append]
      exact List.mem_append_right _ List.mem_cons_self
    obtain ⟨count, member⟩ := inTurn.exists_end begun
    exact absurd member (unended count)

/-- Texts begin and end in turn, and the mode is the text mode while one is unfinished. -/
structure Fit (events : List Event) (mode : Mode) : Prop where
  inTurn : InTurn events
  latest : unfinished events = decide (mode = .text)

/-- What is no turn leaves the mode. -/
theorem Fit.append_none {mode : Mode} (fit : Fit events mode) (isNone : turns new = []) :
    Fit (events ++ new) mode := by
  obtain ⟨inTurn, latest⟩ := fit
  rw [unfinished] at latest
  refine ⟨?_, ?_⟩
  · rwa [InTurn, turns_append, isNone, List.append_nil]
  · rwa [unfinished, turns_append, isNone, List.append_nil]

/-- A text begins. -/
theorem Fit.begin (fit : Fit events .command) (begins : turns new = [true]) :
    Fit (events ++ new) .text := by
  refine ⟨fit.inTurn.append begins ?_, unfinished_append begins⟩
  rw [fit.latest]
  decide

/-- The text ends. -/
theorem Fit.close (fit : Fit events .text) (ends : turns new = [false]) :
    Fit (events ++ new) .command := by
  refine ⟨fit.inTurn.append ends ?_, unfinished_append ends⟩
  rw [fit.latest]
  decide

end Event

namespace Editor

variable {start : Editor} {lines earlier texts : List String} {opening closing raw : String}

/-! ## Single lines -/

/-- What a line that is handled in the command mode adds to the events, after the line itself. -/
structure ToldAsCommand (outcome : Except Fault Output) (after : Editor) (reported : List Event) :
    Prop where
  atMostOne : reported.length ≤ 1
  kinds : ∀ event ∈ reported, (∃ refusal, event = .commandRefused refusal) ∨
    (∃ place, event = .textBegun place) ∨ event = .sessionEnded
  refused : (∃ refusal, .commandRefused refusal ∈ reported) ↔
    ∃ output, outcome = .ok output ∧ output.kind = .error
  begun : (∃ place, .textBegun place ∈ reported) ↔ after.session.mode = .text
  ended : .sessionEnded ∈ reported ↔ after.session.ended = true

theorem CommandReport.told {before after : Editor} {outcome : Except Fault Output}
    (report : before.CommandReport raw outcome after) :
    ∃ reported, before.Reports raw reported after ∧ ToldAsCommand outcome after reported := by
  cases report with
  | passed reports mode goesOn unrefused =>
      refine ⟨[], reports, by simp, by simp, ?_, by simp [mode], by simp [goesOn]⟩
      simpa using unrefused
  | refused refusal reports mode goesOn kind =>
      exact ⟨_, reports, by simp, by simp, by simp [kind], by simp [mode], by simp [goesOn]⟩
  | begun reports ready entered kind =>
      refine ⟨_, reports, by simp, by simp, by simp [kind], by simp [ready.mode], ?_⟩
      simp [ready.goesOn]
  | ended reports mode ended kind =>
      exact ⟨_, reports, by simp, by simp, by simp [kind], by simp [mode], by simp [ended]⟩

/-! ## Texts -/

/-- The lines of a text are told to nobody, and they are counted. -/
theorem TextReady.run_silent (texts : List String) :
    ∀ {editor : Editor}, editor.TextReady →
      (∀ text ∈ texts, withoutLineEnd text ≠ EditorM.textEnd) →
      (editor.run texts).events = editor.events ∧
        (editor.run texts).entered = editor.entered + texts.length := by
  induction texts with
  | nil => exact fun _ _ => ⟨rfl, rfl⟩
  | cons raw rest ih =>
      intro editor ready others
      have other := others raw List.mem_cons_self
      have step := (ready.step raw).2
      obtain ⟨events, count⟩ :=
        ih (step.ready ready other).1 fun text member => others text (List.mem_cons_of_mem _ member)
      cases step with
      | closed ends => exact absurd ends other
      | entered _ _ _ _ _ _ _ same counted =>
          rw [show editor.run (raw :: rest) = (editor.next raw).run rest from rfl, events, count,
            same, counted, List.length_cons]
          exact ⟨rfl, by omega⟩

/-- The editor after the line that opened a text. -/
abbrev opened (start : Editor) (earlier : List String) (opening : String) : Editor :=
  start.run (earlier ++ [opening])

/-- A line has opened a text, and the lines behind it are lines of the text. -/
structure Entering (start : Editor) (earlier : List String) (opening : String)
    (texts : List String) : Prop where
  ready : (start.opened earlier opening).TextReady
  counted : (start.opened earlier opening).entered = 0
  begun : ∃ front, (start.opened earlier opening).events.toList =
    front ++ [.textBegun (start.opened earlier opening).session.insertAfter]
  others : ∀ text ∈ texts, withoutLineEnd text ≠ EditorM.textEnd

theorem run_opened (start : Editor) (earlier : List String) (opening : String)
    (texts : List String) :
    start.run (earlier ++ opening :: texts) = (start.opened earlier opening).run texts := by
  rw [opened, ← run_append, List.append_assoc, List.singleton_append]

/-- A text has been entered from a beginning to an end.  These are the last events of the line that
opened it and of the one that closed it, and the lines in between are the text.  The end counts
them, and they stand behind the place that the beginning names, before the line that closes the text
and after it. -/
structure TextBetween (start : Editor) (front : List Event) (place : Int) (count : Nat)
    (earlier : List String) (opening : String) (texts : List String) (closing : String) :
    Prop where
  begun : (start.run (earlier ++ [opening])).events.toList = front ++ [.textBegun place]
  ended : (start.run (earlier ++ opening :: texts ++ [closing])).events.toList =
    front ++ [.textBegun place, .textEnded count]
  others : ∀ text ∈ texts, withoutLineEnd text ≠ EditorM.textEnd
  closes : withoutLineEnd closing = EditorM.textEnd
  counts : count = texts.length
  nonneg : 0 ≤ place
  entered : ((start.run (earlier ++ opening :: texts)).buffer.lines.drop place.toNat).take count =
    texts.map withoutLineEnd
  lines : ((start.run (earlier ++ opening :: texts ++ [closing])).buffer.lines.drop
    place.toNat).take count = texts.map withoutLineEnd

/-- What has been inserted behind a place stands there. -/
theorem inserted_behind {lines : List String} {place : Nat} (within : place ≤ lines.length)
    (new : List String) :
    ((lines.take place ++ new ++ lines.drop place).drop place).take new.length = new := by
  rw [List.append_assoc, List.drop_left' (List.length_take_of_le within), List.take_left]

/-- The line that ends a text ends it where it stands. -/
theorem Entering.closed (entering : start.Entering earlier opening texts)
    (closes : withoutLineEnd closing = EditorM.textEnd) {front : List Event} {place : Int}
    (begun : (start.opened earlier opening).events.toList = front ++ [.textBegun place]) :
    start.TextBetween front place texts.length earlier opening texts closing := by
  obtain ⟨ready, counted, ⟨others', named⟩, others⟩ := entering
  have isPlace : (start.opened earlier opening).session.insertAfter = place := by
    rw [named] at begun
    simpa using (List.append_inj' begun rfl).2
  have final : start.run (earlier ++ opening :: texts ++ [closing]) =
      ((start.opened earlier opening).run texts).next closing := by
    rw [run_append, run_opened]
    rfl
  obtain ⟨moved, -, committed, lines, -⟩ := ready.run_entry texts others closes
  obtain ⟨events, count⟩ := ready.run_silent texts others
  obtain ⟨now, entered⟩ := ready.run_lines texts others
  have within : place.toNat ≤ (start.opened earlier opening).buffer.lines.length := by
    have last := ready.within
    rw [isPlace] at last
    exact Int.toNat_le.mpr last
  rw [isPlace] at lines entered
  have behind := inserted_behind within (texts.map withoutLineEnd)
  rw [List.length_map] at behind
  refine ⟨begun, ?_, others, closes, rfl, isPlace ▸ ready.start, ?_, ?_⟩
  · rw [final]
    cases (now.step closing).2 with
    | entered other => exact absurd closes other
    | closed _ _ _ _ _ _ _ told =>
        rw [told, events, count, counted, Array.toList_push, begun]
        simp
  · rw [run_opened, entered]
    exact behind
  · have same : moved.commit.lines = moved.lines := congrArg Document.lines moved.commit_document
    rw [final, committed, same, lines]
    exact behind

/-! ## Runs -/

/-- The events of the texts that a run has entered: nothing stands between a beginning and its end,
and they belong to a text. -/
def Matches (start : Editor) (lines : List String) (events : List Event) : Prop :=
  ∀ (front : List Event) (place : Int) (between : List Event) (count : Nat) (rest : List Event),
    events = front ++ .textBegun place :: between ++ .textEnded count :: rest →
    (∀ other, .textEnded other ∉ between) →
    between = [] ∧ ∃ earlier opening texts closing later,
      lines = earlier ++ opening :: texts ++ closing :: later ∧
      start.TextBetween front place count earlier opening texts closing

/-- With one more line, only the texts that end in the new events are to be looked for. -/
theorem Matches.next {events new : List Event} (matched : start.Matches lines events)
    (ends : ∀ (front : List Event) (place : Int) (between gap : List Event) (count : Nat)
      (rest : List Event), front ++ .textBegun place :: between = events ++ gap →
      new = gap ++ .textEnded count :: rest → (∀ other, .textEnded other ∉ between) →
      between = [] ∧ ∃ earlier opening texts,
        lines = earlier ++ opening :: texts ∧
        start.TextBetween front place count earlier opening texts raw) :
    start.Matches (lines ++ [raw]) (events ++ new) := by
  intro front place between count rest same inner
  rcases split_append same with ⟨more, isOld⟩ | ⟨gap, isFront, isNew⟩
  · obtain ⟨isNil, earlier, opening, texts, closing, later, isLines, text⟩ :=
      matched front place between count more isOld inner
    exact ⟨isNil, earlier, opening, texts, closing, later ++ [raw], by simp [isLines], text⟩
  · obtain ⟨isNil, earlier, opening, texts, isLines, text⟩ :=
      ends front place between gap count rest isFront isNew inner
    exact ⟨isNil, earlier, opening, texts, raw, [], by rw [isLines], text⟩

/-- Events that end no text leave the texts that have been entered alone. -/
theorem Matches.append {events new : List Event} (matched : start.Matches lines events)
    (unended : ∀ count, .textEnded count ∉ new) :
    start.Matches (lines ++ [raw]) (events ++ new) := by
  refine matched.next ?_
  intro front place between gap count rest _ isNew
  refine absurd ?_ (unended count)
  rw [isNew]
  simp

theorem Matches.silent {events : List Event} (matched : start.Matches lines events)
    (raw : String) : start.Matches (lines ++ [raw]) events := by
  have appended : start.Matches (lines ++ [raw]) (events ++ []) := matched.append (by simp)
  rwa [List.append_nil] at appended

/-- The end of a text goes with its beginning. -/
theorem Matches.close {events : List Event}
    (matched : start.Matches (earlier ++ opening :: texts) events)
    (inTurn : Event.InTurn events) (text : start.Entering earlier opening texts)
    (isOpened : (start.opened earlier opening).events.toList = events)
    (closes : withoutLineEnd raw = EditorM.textEnd) :
    start.Matches (earlier ++ opening :: texts ++ [raw])
      (events ++ [.textEnded texts.length]) := by
  obtain ⟨others, named⟩ := text.begun
  rw [isOpened] at named
  refine matched.next ?_
  intro front place between gap count rest isFront isNew inner
  obtain ⟨rfl, isCount, -⟩ : gap = [] ∧ count = texts.length ∧ rest = [] := by
    cases gap with
    | nil => simpa [eq_comm] using isNew
    | cons event more => simp at isNew
  rw [List.append_nil] at isFront
  rw [← isFront] at inTurn named
  have isNil := inTurn.eq_nil_of_last named inner
  rw [isNil, ← isOpened] at isFront
  rw [isCount]
  exact ⟨isNil, earlier, opening, texts, rfl, text.closed closes isFront.symm⟩

/-- What is true of the events of a run, which has come to `now`. -/
structure Narrated (start : Editor) (lines : List String) (now : Editor) : Prop where
  isRun : start.run lines = now
  equipped : now.Equipped
  fit : Event.Fit now.events.toList now.session.mode
  entering : now.session.mode = .text → ∃ earlier opening texts,
    lines = earlier ++ opening :: texts ∧ start.Entering earlier opening texts
  goesOn : now.session.ended = false → .sessionEnded ∉ now.events.toList
  final : now.session.ended = true → ∃ front,
    now.events.toList = front ++ [.sessionEnded] ∧ .sessionEnded ∉ front
  matched : start.Matches lines now.events.toList

variable {now : Editor}

/-- While a text is being entered, the editor is ready for a line of it. -/
theorem Narrated.textReady (narrated : start.Narrated lines now)
    (entering : now.session.mode = .text) : now.TextReady := by
  obtain ⟨earlier, opening, texts, rfl, text⟩ := narrated.entering entering
  rw [← narrated.isRun, run_opened]
  exact (text.ready.run_lines texts text.others).1

theorem Narrated.run_next (narrated : start.Narrated lines now) (raw : String) :
    start.run (lines ++ [raw]) = now.next raw := by
  rw [run_append, narrated.isRun]
  rfl

/-- Once the session has ended, there is nothing more to tell. -/
theorem Narrated.next_ended (narrated : start.Narrated lines now)
    (ended : now.session.ended = true) (raw : String) :
    start.Narrated (lines ++ [raw]) (now.next raw) := by
  have isRun := narrated.run_next raw
  have matched := narrated.matched.silent raw
  rw [(submit_ended ended raw).2] at isRun ⊢
  refine { narrated with isRun, matched, entering := fun entering => ?_ }
  rw [(narrated.textReady entering).goesOn] at ended
  cases ended

/-- What is told of a line, along with what becomes of it, keeps the events in order. -/
theorem Narrated.reported (narrated : start.Narrated lines now)
    (goesOn : now.session.ended = false) {after : Editor} {reported : List Event}
    (reports : now.Reports raw reported after) (isRun : start.run (lines ++ [raw]) = after)
    (equipped : after.Equipped)
    (fit : Event.Fit (now.events.toList ++ .commandSubmitted (withoutLineEnd raw) :: reported)
      after.session.mode)
    (entering : after.session.mode = .text → start.Entering lines raw [])
    (unended : ∀ count, .textEnded count ∉ reported)
    (continues : after.session.ended = false → .sessionEnded ∉ reported)
    (final : after.session.ended = true → reported = [.sessionEnded]) :
    start.Narrated (lines ++ [raw]) after := by
  have before := narrated.goesOn goesOn
  have told : after.events.toList =
      now.events.toList ++ .commandSubmitted (withoutLineEnd raw) :: reported := reports
  refine ⟨isRun, equipped, told ▸ fit, ?_, ?_, ?_, ?_⟩
  · exact fun mode => ⟨lines, raw, [], rfl, entering mode⟩
  · intro later
    rw [told]
    simpa [before] using continues later
  · intro ended
    refine ⟨now.events.toList ++ [.commandSubmitted (withoutLineEnd raw)], ?_, by simpa using before⟩
    rw [told, final ended, List.append_assoc]
    rfl
  · rw [told]
    exact narrated.matched.append (by simpa using unended)

/-- A line that is handled in the command mode is told in its place. -/
theorem Narrated.next_command (narrated : start.Narrated lines now)
    (awaiting : now.session.mode = .command) (goesOn : now.session.ended = false) (raw : String) :
    start.Narrated (lines ++ [raw]) (now.next raw) := by
  have isRun := narrated.run_next raw
  have equipped := narrated.equipped.next raw
  have report := narrated.equipped.report awaiting goesOn raw
  have fit := narrated.fit
  rw [awaiting] at fit
  generalize now.answer raw = outcome at report
  generalize now.next raw = after at isRun equipped report ⊢
  cases report with
  | passed reports mode same =>
      exact narrated.reported goesOn reports isRun equipped (mode ▸ fit.append_none rfl)
        (by simp [mode]) (by simp) (by simp) (by simp [same])
  | refused refusal reports mode same =>
      exact narrated.reported goesOn reports isRun equipped (mode ▸ fit.append_none rfl)
        (by simp [mode]) (by simp) (by simp) (by simp [same])
  | begun reports ready counted =>
      have told := reports
      have isOpened : start.opened lines raw = after := isRun
      rw [Reports, List.append_cons, ← isOpened] at told
      have entering : start.Entering lines raw [] :=
        ⟨isOpened ▸ ready, isOpened ▸ counted, ⟨_, told⟩, by simp⟩
      exact narrated.reported goesOn reports isRun equipped (ready.mode ▸ fit.begin rfl)
        (fun _ => entering) (by simp) (by simp) (by simp [ready.goesOn])
  | ended reports mode ended =>
      exact narrated.reported goesOn reports isRun equipped (mode ▸ fit.append_none rfl)
        (by simp [mode]) (by simp) (by simp [ended]) (fun _ => rfl)

/-- A line of a text is told to nobody. -/
theorem Narrated.next_entered (narrated : start.Narrated lines now)
    (entering : now.session.mode = .text) (other : withoutLineEnd raw ≠ EditorM.textEnd) :
    start.Narrated (lines ++ [raw]) (now.next raw) := by
  have ready := narrated.textReady entering
  have step := (ready.step raw).2
  have goesOn := (step.ready ready other).1.goesOn
  have mode := (step.ready ready other).1.mode
  have fit := narrated.fit
  have unended := narrated.goesOn ready.goesOn
  have matched := narrated.matched.silent raw
  cases step with
  | closed ends => exact absurd ends other
  | entered _ _ _ _ _ _ _ same =>
      rw [← same] at fit unended matched
      rw [entering, ← mode] at fit
      refine ⟨narrated.run_next raw, narrated.equipped.next raw, fit, fun _ => ?_, fun _ => unended,
        by simp [goesOn], matched⟩
      obtain ⟨earlier, opening, texts, rfl, text⟩ := narrated.entering entering
      refine ⟨earlier, opening, texts ++ [raw], by simp, { text with others := ?_ }⟩
      rw [List.forall_mem_append]
      exact ⟨text.others, by simpa using other⟩

/-- The line that ends a text is told as its end. -/
theorem Narrated.next_closed (narrated : start.Narrated lines now)
    (entering : now.session.mode = .text) (ends : withoutLineEnd raw = EditorM.textEnd) :
    start.Narrated (lines ++ [raw]) (now.next raw) := by
  have isRun := narrated.run_next raw
  have ready := narrated.textReady entering
  have fit := narrated.fit
  have unended := narrated.goesOn ready.goesOn
  obtain ⟨earlier, opening, texts, rfl, text⟩ := narrated.entering entering
  obtain ⟨events, count⟩ := text.ready.run_silent texts text.others
  rw [← run_opened, narrated.isRun] at events count
  rw [text.counted, Nat.zero_add] at count
  have matched := narrated.matched.close fit.inTurn text (by rw [events]) ends
  cases (ready.step raw).2 with
  | entered other => exact absurd ends other
  | closed _ _ _ _ _ session _ told =>
      have goesOn : (now.next raw).session.ended = false := by
        rw [session]
        exact ready.goesOn
      have mode : (now.next raw).session.mode = .command := by rw [session]
      have toldList : (now.next raw).events.toList =
          now.events.toList ++ [.textEnded texts.length] := by
        rw [told, Array.toList_push, count]
      rw [entering] at fit
      refine ⟨isRun, narrated.equipped.next raw, ?_, by simp [mode], fun _ => ?_, by simp [goesOn],
        toldList ▸ matched⟩
      · rw [toldList, mode]
        exact fit.close rfl
      · rw [toldList]
        simpa using unended

/-- **Each line keeps the events in order.** -/
theorem Narrated.next (narrated : start.Narrated lines now) (raw : String) :
    start.Narrated (lines ++ [raw]) (now.next raw) := by
  cases ended : now.session.ended with
  | true => exact narrated.next_ended ended raw
  | false =>
      cases mode : now.session.mode with
      | command => exact narrated.next_command mode ended raw
      | text =>
          by_cases ends : withoutLineEnd raw = EditorM.textEnd
          · exact narrated.next_closed mode ends
          · exact narrated.next_entered mode ends

/-- **A run keeps its events in order.** -/
theorem Narrated.run (begun : start.Narrated [] start) (lines : List String) :
    start.Narrated lines (start.run lines) := by
  induction lines using List.reverseRecOn with
  | nil => exact begun
  | append_singleton lines raw narrated =>
      rw [narrated.run_next raw]
      exact narrated.next raw

end Editor

end LineEditor

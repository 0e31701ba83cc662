import LineEditor.Proofs.Editor.Changing
import LineEditor.Proofs.Editor.Entries

/-!
# Joining lines

A line that invokes `j` for a range of at least two lines makes one line of them,
in one step of the history, and goes to that line (`Editor.Joins`).  Without an
address it joins the current line and the next one, and if there is no next one
it is refused (`Editor.Refuses`).

For a range of a single line there is nothing to join, and then the line does
nothing at all (`Editor.Idles`): it does not even go to the line that is
addressed.

`Editor.joining_exact` says so of all lines that invoke `j`, however their
addresses are written, and in particular of those that name their lines by plain
numbers.
-/

set_option autoImplicit false

namespace LineEditor

/-- A transaction in which nothing is done leaves the buffer as it was. -/
theorem Buffer.enter_commit {buffer : Buffer} (closed : buffer.Closed) (label : String) :
    (buffer.enter label).commit = buffer := by
  rw [commit_edited closed (.refl _), enter_closed closed]
  simp only [Nat.lt_irrefl, if_false]
  rw [← closed.opened, ← closed.depth]

/-- A range of lines has been joined into one, if there are several, and else nothing has been
done. -/
structure Buffer.Joined (before : Buffer) (start stop : Nat) (after : Buffer) : Prop where
  several : start < stop →
    (∃ count, 0 < count ∧ before.Edited count after) ∧
      after.lines = before.lines.take (start - 1) ++
        [String.join (Lines.block before.lines start stop)] ++ before.lines.drop stop ∧
      after.current = start
  single : stop ≤ start → after = before

namespace EditorM

variable {editor : Editor} {invocation : Invocation} {arity : Arity}

/-- If there are several lines to be joined, the last of them is there. -/
theorem joinStop_there {stop : Nat} (fits : invocation.Fits arity editor.buffer.lastLine)
    (found : joinStop invocation editor.buffer.lineCount = .ok stop)
    (several : invocation.start < stop) : stop ≤ editor.buffer.lineCount := by
  have first := fits.first
  have last := fits.last
  rw [Buffer.lastLine] at last
  rw [joinStop] at found
  split at found
  · cases found
    omega
  · split at found
    · cases found
    · cases found
      omega

theorem joinStop_refuses {lineCount : Nat} {fault : Fault}
    (failed : joinStop invocation lineCount = .error fault) :
    ∃ refusal, fault = .refusal refusal := by
  rw [joinStop] at failed
  split at failed
  · cases failed
  · split at failed
    · cases failed
      exact ⟨_, rfl⟩
    · cases failed

/-- The handler joins the lines up to the last one that is meant, unless there is no such line. -/
theorem ensures_joinLines_at (opened : editor.buffer.opened?.isSome)
    (fits : invocation.Fits arity editor.buffer.lastLine) :
    (joinLines invocation).Ensures editor
      (fun reply after => reply = { status := "join" } ∧ after.session = editor.session ∧
        ∃ stop, joinStop invocation editor.buffer.lineCount = .ok stop ∧
          editor.buffer.Joined invocation.start stop after.buffer)
      (fun fault after => after = editor ∧
        joinStop invocation editor.buffer.lineCount = .error fault) := by
  simp only [joinLines, ensures_bind, ensures_get, ensures_lift, ensures_ite, ensures_pure]
  refine ⟨fun stop found => ⟨?_, ?_⟩, fun fault failed => ⟨trivial, failed⟩⟩
  · rintro ⟨several, nonempty⟩
    obtain ⟨buffer, success, edited, lines, current⟩ :=
      Buffer.joinLines_within opened fits.first several (joinStop_there fits found several)
    rw [ensures_modifyBuffer_ok success]
    exact ⟨trivial, rfl, stop, found, fun _ => ⟨⟨2, by decide, edited⟩, lines, current⟩,
      fun single => absurd several (Nat.not_lt.mpr single)⟩
  · intro none
    refine ⟨trivial, trivial, stop, found, fun several => absurd several fun several => ?_,
      fun _ => rfl⟩
    have there := joinStop_there fits found several
    exact none ⟨several, by omega⟩

end EditorM

/-- Lines that are given no address are bound to the current line. -/
theorem CommandSpec.bindLines_unaddressed {spec : CommandSpec} {current : Nat} {args : String}
    {first? last? : Option Nat} {invocation : Invocation}
    (success : spec.bindLines current args first? last? = .ok invocation)
    (unaddressed : invocation.addressed = false) : invocation.start = current := by
  rw [bindLines] at success
  split at success
  · cases success
  · split at success
    · cases success
    · cases success
      simp only [Bool.or_eq_false_iff, Option.isSome_eq_false_iff] at unaddressed
      rw [Option.isNone_iff_eq_none.mp unaddressed.1]
      rfl

/-- What a line invokes has been bound to the lines that its addresses resolve to. -/
theorem Editor.Invokes.bound {editor : Editor} {raw : String} {spec : CommandSpec}
    {invocation : Invocation} (invokes : editor.Invokes raw spec invocation) :
    ∃ args first? last?,
      spec.bindLines editor.buffer.current args first? last? = .ok invocation := by
  have bound : (EditorM.plan (CommandLine.scan (withoutLineEnd raw))).Ensures editor
      (fun request _ => ∀ spec invocation, request = .invoke spec invocation →
        ∃ args first? last?,
          spec.bindLines editor.buffer.current args first? last? = .ok invocation)
      (fun _ _ => True) := by
    simp only [EditorM.plan, EditorM.ensures_bind]
    refine (EditorM.ensures_resolveLines (withoutLineEnd raw) editor).mono ?_ (fun _ _ _ => trivial)
    rintro lines middle ⟨sought, -⟩
    simp only [EditorM.bindRequest, EditorM.ensures_bind, EditorM.ensures_get]
    split
    · rw [EditorM.ensures_pure]
      intro spec invocation impossible
      cases impossible
    · simp only [EditorM.ensures_bind, EditorM.ensures_lift, EditorM.ensures_pure]
      refine ⟨?_, fun _ _ => trivial⟩
      rintro invocation bound _ _ ⟨⟩
      rw [sought.buffer] at bound
      exact ⟨_, _, _, bound⟩
  exact bound.of_ok invokes spec invocation rfl

/-- The command that joins lines, and what it is given. -/
theorem Registry.own_joining : ∀ spec ∈ Registry.ownCommands, spec.letter = 'j' →
    spec.handler = .builtin .joinLines ∧ spec.mutates = true := by
  decide

theorem Registry.own_joining_bound : ScanState.IsLetter 'j' ∧
    ∃ spec, own.find? 'j' = some spec ∧ spec.letter = 'j' ∧
      ∀ current args first? last?, ∃ invocation,
        spec.bindLines current args first? last? = .ok invocation ∧
          invocation.addressed = (first?.isSome || last?.isSome) ∧
          invocation.start = first?.getD current ∧
          invocation.stop = last?.getD (first?.getD current) :=
  ⟨by decide, _, rfl, rfl, fun _ _ _ _ => ⟨_, rfl, rfl, rfl, rfl⟩⟩

namespace Editor

/-- A line joins a range of lines into one and goes there, as one step of the history, which undo
takes back.  Nothing of the session changes but for what the addresses leave to be remembered. -/
structure Joins (editor : Editor) (raw : String) (start stop : Nat) : Prop where
  answer : editor.answer raw = .ok { kind := .none }
  lines : (editor.next raw).buffer.lines = editor.buffer.lines.take (start - 1) ++
    [String.join (Lines.block editor.buffer.lines start stop)] ++ editor.buffer.lines.drop stop
  current : (editor.next raw).buffer.current = start
  history : (editor.next raw).buffer.history.entries =
    (editor.buffer.entry "j" :: editor.buffer.history.entries).take
      editor.buffer.history.limit.toNat
  session : (editor.next raw).session =
    { editor.session with lastSearch? := editor.searchAhead raw }
  undo : 1 ≤ editor.buffer.history.limit →
    ∀ undo, asksUndo undo = true → (editor.next raw).AcceptsLine undo →
      ((editor.next raw).next undo).buffer.lines = editor.buffer.lines ∧
      ((editor.next raw).next undo).buffer.current = editor.buffer.current

/-- A line does nothing, and says nothing: the lines, the current line and the history are as
before. -/
structure Idles (editor : Editor) (raw : String) : Prop where
  answer : editor.answer raw = .ok { kind := .none }
  buffer : (editor.next raw).buffer = editor.buffer
  session : (editor.next raw).session =
    { editor.session with lastSearch? := editor.searchAhead raw }

/-- A line is refused, and nothing changes but that the message is remembered. -/
structure Refuses (editor : Editor) (raw : String) (refusal : Refusal) : Prop where
  answer : editor.answer raw =
    .ok { kind := .error, lines := editor.session.errorMarker refusal.message }
  buffer : (editor.next raw).buffer = editor.buffer
  session : (editor.next raw).session = { editor.session with lastError := refusal.message }

/-- What a line comes to that joins the lines of a range. -/
structure JoinsRange (editor : Editor) (raw : String) (start stop : Nat) : Prop where
  several : start < stop → editor.Joins raw start stop
  single : start = stop → editor.Idles raw

/-- What a line comes to that joins the current line and the next one. -/
structure JoinsNext (editor : Editor) (raw : String) : Prop where
  there : editor.buffer.current < editor.buffer.lineCount →
    editor.Joins raw editor.buffer.current (editor.buffer.current + 1)
  missing : editor.buffer.lineCount ≤ editor.buffer.current → editor.Refuses raw .outOfRange

/-- How a line that invokes `j` is answered, and the buffer and the session that it leaves. -/
inductive Joining (editor : Editor) (raw : String) (invocation : Invocation) (output : Output)
    (buffer : Buffer) (session : Session) : Prop
  | joined (stop : Nat)
      (found : EditorM.joinStop invocation editor.buffer.lineCount = .ok stop)
      (answer : output = { kind := .none })
      (kept : session = { editor.session with lastSearch? := editor.searchAhead raw })
      (several : invocation.start < stop →
        buffer.lines = editor.buffer.lines.take (invocation.start - 1) ++
          [String.join (Lines.block editor.buffer.lines invocation.start stop)] ++
            editor.buffer.lines.drop stop ∧
        buffer.current = invocation.start ∧
        buffer.history = editor.buffer.history.push (editor.buffer.entry "j"))
      (single : stop ≤ invocation.start → buffer = editor.buffer)
  | refused (refusal : Refusal)
      (failed : EditorM.joinStop invocation editor.buffer.lineCount = .error (.refusal refusal))
      (answer : output =
        { kind := .error, lines := editor.session.errorMarker refusal.message })
      (same : buffer = editor.buffer)
      (kept : session = { editor.session with lastError := refusal.message })

variable {editor : Editor} {raw : String} {spec : CommandSpec} {invocation : Invocation}

section Submitted

variable (ready : editor.CommandReady) (goesOn : editor.session.ended = false)
  (invokes : editor.Invokes raw spec invocation) (letter : spec.letter = 'j')
include ready goesOn invokes letter

/-- A line that invokes `j` joins the lines, or is refused if the last one is missing. -/
theorem answered_join : ∃ output, editor.answer raw = .ok output ∧
    editor.Joining raw invocation output (editor.next raw).buffer (editor.next raw).session := by
  obtain ⟨own, -⟩ := invokes.own ready
  obtain ⟨handler, mutates⟩ := Registry.own_joining spec own letter
  refine (EditorM.ensures_submit_changing ready goesOn invokes mutates
    (editor.Joining raw invocation) fun middle _ buffer session => ?_).answered_with
  obtain ⟨opened, fits, lines, count⟩ := entered_ready ready invokes buffer
  rw [handler]
  refine (EditorM.ensures_joinLines_at opened fits).mono ?_ ?_
  · rintro reply inner ⟨rfl, kept, stop, found, joined⟩
    rw [count] at found
    refine ⟨rfl, rfl, .joined stop found (by simp [Reply.shown]) (kept.trans session) ?_ ?_⟩
    · intro several
      obtain ⟨⟨edits, some, edited⟩, isLines, current⟩ := joined.several several
      rw [lines] at isLines
      rw [buffer] at edited
      refine ⟨by rw [Buffer.commit_lines, isLines], by rw [Buffer.commit_current, current], ?_⟩
      rw [Buffer.commit_edited ready.closed edited, if_pos some, letter]
      rfl
    · intro single
      rw [joined.single single, buffer, Buffer.enter_commit ready.closed]
  · rintro fault inner ⟨rfl, failed⟩
    rw [count] at failed
    obtain ⟨refusal, rfl⟩ := EditorM.joinStop_refuses failed
    -- Which search would be remembered does not matter for what is said of the refusal.
    generalize editor.searchAhead raw = search at session
    refine ⟨refusal, rfl, .refused refusal failed ?_ ?_ ?_⟩
    · rw [session]
      rfl
    · rw [buffer]
      exact Buffer.rollback_edited ready.closed (.refl _)
    · rw [session]

/-- If the last line is there, the lines are joined, and a single line is left alone. -/
theorem joins_found (bounded : editor.buffer.history.Bounded) {stop : Nat}
    (found : EditorM.joinStop invocation editor.buffer.lineCount = .ok stop) :
    (invocation.start < stop → editor.Joins raw invocation.start stop) ∧
      (stop ≤ invocation.start → editor.Idles raw) := by
  obtain ⟨output, answer, joining⟩ := answered_join ready goesOn invokes letter
  cases joining with
  | refused refusal failed =>
      rw [found] at failed
      cases failed
  | joined other foundAgain isOutput session several single =>
      obtain rfl : stop = other := Except.ok.inj (found.symm.trans foundAgain)
      rw [isOutput] at answer
      refine ⟨fun more => ?_, fun one => ⟨answer, single one, session⟩⟩
      obtain ⟨lines, current, history⟩ := several more
      have readyNext : (editor.next raw).CommandReady := by
        refine ((Sound.command ready bounded).next raw).commandReady ?_
        rw [session]
        exact ready.mode
      have goesOnNext : (editor.next raw).session.ended = false := by
        rw [session]
        exact goesOn
      refine ⟨answer, lines, current, ?_, session, fun room undo asks accepts => ?_⟩
      · rw [history, History.entries_push bounded]
      · exact readyNext.undo_pushed goesOnNext history ready.placed room asks accepts

/-- A line that invokes `j` with an address joins the lines that are addressed. -/
theorem joinsRange_invoked (bounded : editor.buffer.history.Bounded)
    (addressed : invocation.addressed = true) :
    editor.JoinsRange raw invocation.start invocation.stop := by
  have found : EditorM.joinStop invocation editor.buffer.lineCount = .ok invocation.stop :=
    if_pos addressed
  obtain ⟨several, single⟩ := joins_found ready goesOn invokes letter bounded found
  exact ⟨several, fun same => single same.ge⟩

/-- A line that invokes `j` without an address joins the current line and the next one. -/
theorem joinsNext_invoked (bounded : editor.buffer.history.Bounded)
    (unaddressed : invocation.addressed = false) : editor.JoinsNext raw := by
  obtain ⟨args, first?, last?, bound⟩ := invokes.bound
  have start := CommandSpec.bindLines_unaddressed bound unaddressed
  constructor
  · intro there
    have found : EditorM.joinStop invocation editor.buffer.lineCount =
        .ok (editor.buffer.current + 1) := by
      rw [EditorM.joinStop, unaddressed, if_neg Bool.false_ne_true, if_neg (by omega), start]
    have joins := (joins_found ready goesOn invokes letter bounded found).1
    rw [start] at joins
    exact joins (Nat.lt_succ_self _)
  · intro missing
    have failed : EditorM.joinStop invocation editor.buffer.lineCount =
        .error (.refusal .outOfRange) := by
      rw [EditorM.joinStop, unaddressed, if_neg Bool.false_ne_true, if_pos (by omega)]
    obtain ⟨output, answer, joining⟩ := answered_join ready goesOn invokes letter
    cases joining with
    | joined stop found =>
        rw [failed] at found
        cases found
    | refused refusal failedAgain isOutput buffer session =>
        rw [failed] at failedAgain
        cases failedAgain
        rw [isOutput] at answer
        exact ⟨answer, buffer, session⟩

end Submitted

section Exact

variable (ready : editor.CommandReady) (bounded : editor.buffer.history.Bounded)
  (goesOn : editor.session.ended = false)
include ready bounded goesOn

/-- **Joining makes one line of several and goes there, in one step of the history, and it does
nothing about a single line.**  Take an editor with its own commands that awaits a command.  A line
that invokes `j` with an address joins the lines that are addressed, and one that invokes it without
an address joins the current line and the next one, or is refused if there is no next line.

Lines that name their lines by plain numbers are such lines, if the numerals can be read. -/
theorem joining_exact :
    (∀ raw spec invocation, editor.Invokes raw spec invocation → spec.letter = 'j' →
      (invocation.addressed = true →
        editor.JoinsRange raw invocation.start invocation.stop) ∧
      (invocation.addressed = false → editor.JoinsNext raw)) ∧
    (∀ raw start stop args, 1 ≤ start → start ≤ stop → stop ≤ editor.buffer.lineCount →
      NamesRange raw start stop 'j' args → editor.JoinsRange raw start stop) ∧
    (∀ number, 1 ≤ number → number ≤ editor.buffer.lineCount →
      (toString number).length ≤ Text.digitLimit → editor.Idles (toString number ++ "j")) ∧
    editor.JoinsNext "j" := by
  obtain ⟨isLetter, spec, found, letter, binds⟩ := Registry.own_joining_bound
  rw [← ready.registry] at found
  refine ⟨?_, ?_, ?_, ?_⟩
  · intro raw spec invocation invokes letter
    exact ⟨joinsRange_invoked ready goesOn invokes letter bounded,
      joinsNext_invoked ready goesOn invokes letter bounded⟩
  · intro raw start stop args first ordered last names
    obtain ⟨invocation, bound, addressed, isStart, isStop⟩ :=
      binds editor.buffer.current args (some start) (some stop)
    have chars : ('j'.toString ++ args).toList = 'j' :: args.toList := by simp
    have invokes := invokes_numbers_rest chars isLetter found names.whole names.shortStart
      names.shortStop first ordered (by rw [Buffer.lastLine]; omega) bound
    have joins := joinsRange_invoked ready goesOn invokes letter bounded addressed
    rw [isStart, isStop] at joins
    exact joins
  · intro number first last short
    obtain ⟨invocation, bound, addressed, isStart, isStop⟩ :=
      binds editor.buffer.current "" (some number) none
    have invokes := invokes_number isLetter found short first (by rw [Buffer.lastLine]; omega) bound
    have joins := joinsRange_invoked ready goesOn invokes letter bounded addressed
    rw [isStart, isStop] at joins
    exact joins.single rfl
  · obtain ⟨invocation, bound, addressed, -⟩ := binds editor.buffer.current "" none none
    have invokes : editor.Invokes "j" spec invocation :=
      invokes_rest (by decide) isLetter found (by decide) bound
    exact joinsNext_invoked ready goesOn invokes letter bounded addressed

end Exact

/-- The last two of three lines are joined, and undo takes them apart again. -/
theorem joining_exact_last :
    (ofText "one\ntwo\nthree").CommandReady ∧
      (ofText "one\ntwo\nthree").buffer.history.Bounded ∧
      (ofText "one\ntwo\nthree").session.ended = false ∧
      ((ofText "one\ntwo\nthree").next "2,3j").buffer.lines = ["one", "twothree"] ∧
      ((ofText "one\ntwo\nthree").next "2,3j").buffer.current = 2 ∧
      (((ofText "one\ntwo\nthree").next "2,3j").next "u").buffer.lines = ["one", "two", "three"] ∧
      ((ofText "one\ntwo\nthree").next "j").buffer.lines = ["onetwo", "three"] ∧
      ((ofText "one\ntwo\nthree").next "3j").buffer = (ofText "one\ntwo\nthree").buffer := by
  have sound := (reachable_ofText "one\ntwo\nthree").sound
  have ready := sound.commandReady (by decide +kernel)
  have goesOn : (ofText "one\ntwo\nthree").session.ended = false := by decide +kernel
  obtain ⟨-, range, single, next⟩ := joining_exact ready sound.bounded goesOn
  have joins := (range "2,3j" 2 3 "" (by decide) (by decide) (by decide +kernel)
    ⟨by decide +kernel, by decide +kernel, by decide +kernel⟩).several (by decide)
  have first := next.there (by decide +kernel)
  have undone := joins.undo (by decide +kernel) "u" (by decide +kernel) (.inl (by decide +kernel))
  refine ⟨ready, sound.bounded, goesOn, ?_, joins.current, ?_, ?_, ?_⟩
  · rw [joins.lines]
    decide +kernel
  · rw [undone.1]
    decide +kernel
  · rw [first.lines]
    decide +kernel
  · exact (single 3 (by decide) (by decide +kernel) (by decide +kernel)).buffer

/-- A line that joins the second line alone does not go there. -/
theorem joining_single_stays :
    let editor := ofText "one\ntwo"
    editor.CommandReady ∧ editor.buffer.lineCount = 2 ∧
      (editor.answer "2j").map (·.kind) = .ok .none ∧ (editor.next "2j").buffer.current = 1 := by
  have sound := (reachable_ofText "one\ntwo").sound
  exact ⟨sound.commandReady (by decide +kernel), by decide +kernel, by decide +kernel,
    by decide +kernel⟩

end Editor

end LineEditor

import LineEditor.Proofs.Editor.Candor
import LineEditor.Proofs.Editor.Reachable
import LineEditor.Proofs.Editor.Submitting

/-!
# What a line does about changes and quitting

With the editor's own commands, a submitted line can do four things to the note
that there are unsaved changes and to the state of quitting
(`Editor.LineEffect`).  It saves the buffer; it asks to quit and is warned; it
ends the session; or it passes, and then no change goes unnoted and quitting is
where it was (`Editor.Candid`).

Nothing is assumed of the buffer, so this also covers lines that go wrong in a
buffer that was not sound from the start (`Editor.Equipped.effect`).
-/

set_option autoImplicit false

namespace LineEditor

/-! ## The letters of saving and quitting -/

/-- The letter of the command that writes the buffer. -/
def writeLetter : Char := 'w'

/-- The letter of the command that quits unless there are unsaved changes. -/
def quitLetter : Char := 'q'

/-- The letter of the command that quits whatever has not been saved. -/
def forcedQuitLetter : Char := 'Q'

/-- The letter of a submitted line. -/
def submittedLetter? (raw : String) : Option Char :=
  (CommandLine.scan (withoutLineEnd raw)).letter?

/-- The handlers that do more than their work are each bound to a letter of its own, and none of
them changes the document inside of a transaction. -/
theorem Registry.own_letters : ∀ spec ∈ Registry.ownCommands,
    (spec.handler = .builtin .undo ↔ spec.letter = undoLetter) ∧
    (spec.handler = .builtin .writeFile ↔ spec.letter = writeLetter) ∧
    (spec.handler = .builtin .quit ↔ spec.letter = quitLetter) ∧
    (spec.handler = .builtin .quitUnconditionally ↔ spec.letter = forcedQuitLetter) ∧
    (spec.letter ∈ [undoLetter, writeLetter, quitLetter, forcedQuitLetter] →
      spec.mutates = false) := by
  decide

theorem Registry.own_find?_isSome : ∀ letter ∈ [writeLetter, quitLetter, forcedQuitLetter],
    Registry.own.find? letter ≠ none := by
  simp only [List.mem_cons, List.not_mem_nil, or_false]
  rintro letter (rfl | rfl | rfl)
  · decide
  · decide
  · decide

namespace Editor

/-- The editor has its own commands and both modes. -/
structure Equipped (editor : Editor) : Prop where
  registry : editor.registry = Registry.own
  modes : editor.BothModes

theorem Kept.equipped {before after : Editor} (kept : before.Kept after)
    (equipped : before.Equipped) : after.Equipped :=
  ⟨kept.registry.trans equipped.registry, kept.modes.trans equipped.modes⟩

/-- A line to quit reads no addresses. -/
theorem ignores_own {editor : Editor} (registry : editor.registry = Registry.own)
    {line : CommandLine} {letter : Char} (isLetter : line.letter? = some letter)
    (quits : letter ∈ [quitLetter, forcedQuitLetter]) : editor.Ignores line := by
  have ignored : (Registry.own.find? letter).map CommandSpec.arity = some .ignored := by
    simp only [List.mem_cons, List.not_mem_nil, or_false] at quits
    rcases quits with rfl | rfl
    · decide
    · decide
  obtain ⟨spec, found, arity⟩ := Option.map_eq_some_iff.mp ignored
  exact ⟨spec, by rw [isLetter, registry]; exact found, arity⟩

/-- What a line does to the note that there are changes and to the state of quitting, with its
answer. -/
inductive LineEffect (before : Editor) (raw : String) : Except Fault Output → Editor → Prop
  | passed {outcome : Except Fault Output} {after : Editor} (candid : before.Candid after)
      (goesOn : ∀ output, outcome = .ok output → output.kind ≠ .ended)
      (quitless : before.session.mode = .command →
        submittedLetter? raw = some quitLetter ∨ submittedLetter? raw = some forcedQuitLetter →
          ¬before.Accepts (CommandLine.scan (withoutLineEnd raw)) ∧
          ∀ output, outcome = .ok output →
            after.events.back? ≠ some (.commandRefused .unsavedChanges))
      (unsaved : before.session.mode = .command → submittedLetter? raw = some writeLetter →
        ∀ output, outcome = .ok output → output.kind = .error) :
      LineEffect before raw outcome after
  | saved {output : Output} {after : Editor} (awaiting : before.session.mode = .command)
      (letter : submittedLetter? raw = some writeLetter) (kept : before.Kept after)
      (target : String) (buffer : after.buffer = before.buffer.markSaved target)
      (quitState : after.session.quitState = before.session.quitState)
      (ended : after.session.ended = before.session.ended) (succeeded : output.kind ≠ .error)
      (goesOn : output.kind ≠ .ended) :
      LineEffect before raw (.ok output) after
  | warned {after : Editor} (awaiting : before.session.mode = .command)
      (letter : submittedLetter? raw = some quitLetter)
      (accepted : before.Accepts (CommandLine.scan (withoutLineEnd raw)))
      (modified : before.buffer.modified = true) (first : before.session.quitState ≠ .refusedOnce)
      (kept : before.Kept after) (buffer : after.buffer = before.buffer)
      (session : after.session =
        { before.session with
          lastError := Refusal.unsavedChanges.message
          quitState := .refusedOnce })
      (events : after.events =
        (before.events.push (.commandSubmitted (withoutLineEnd raw))).push
          (.commandRefused .unsavedChanges)) :
      LineEffect before raw (.ok (before.refusalOutput .unsavedChanges)) after
  | ended {after : Editor} (awaiting : before.session.mode = .command)
      (letter : submittedLetter? raw = some forcedQuitLetter ∨
        submittedLetter? raw = some quitLetter ∧
          (before.session.quitState = .refusedOnce ∨ before.buffer.modified = false))
      (accepted : before.Accepts (CommandLine.scan (withoutLineEnd raw)))
      (kept : before.Kept after) (buffer : after.buffer = before.buffer)
      (ended : after.session.ended = true) :
      LineEffect before raw (.ok { kind := .ended }) after

end Editor

namespace EditorM

open Editor (Candid Worked LineEffect)

variable {editor : Editor} {spec : CommandSpec} {invocation : Invocation} {raw : String}

/-! ## Invoking commands -/

/-- All commands but those to save and to quit are candid. -/
theorem keeps_invoke (own : spec ∈ Registry.ownCommands)
    (other : spec.letter ∉ [writeLetter, quitLetter, forcedQuitLetter]) :
    (invoke spec invocation).Keeps Candid GoesOn := by
  obtain ⟨handler, isBuiltin⟩ := Registry.own_builtin own
  obtain ⟨undoes, writes, quits, forced, keeps⟩ := Registry.own_letters spec own
  simp only [isBuiltin, Handler.builtin.injEq] at undoes writes quits forced
  simp only [List.mem_cons, List.not_mem_nil, or_false, not_or] at other
  rw [invoke]
  by_cases same : handler = .undo
  · rw [if_neg (by simp [keeps, undoes.mp same]), call, isBuiltin, same]
    exact keeps_undo.span _
  · have called : (call spec invocation).Keeps Worked GoesOn := by
      rw [call, isBuiltin]
      exact (keeps_builtin invocation handler same (fun isWrite => other.1 (writes.mp isWrite))
        (fun isQuit => other.2.1 (quits.mp isQuit))
        (fun isForced => other.2.2 (forced.mp isForced))).span _
    exact .ite (called.transaction _ _) called.candid

/-- A buffer that has been saved is marked as such. -/
theorem ensures_saveBuffer_marked (path? : Option String) :
    (saveBuffer path?).Ensures editor
      (fun _ after => ∃ target disk journal,
        after = { editor with buffer := editor.buffer.markSaved target, disk, journal })
      (fun _ after => editor.Worked after) := by
  simp only [saveBuffer, ensures_bind]
  refine (ensures_saveJob path?).mono ?_ ?_
  · intro job after same
    subst same
    simp only [writeBytes, ensures_get, ensures_span, ensures_bind, ensures_lift, ensures_set,
      ensures_modifyBuffer, ensures_pure]
    refine ⟨fun disk _ => ⟨?_, fun fault failed => by cases failed⟩, ?_⟩
    · intro saved marked
      cases marked
      exact ⟨_, _, _, rfl⟩
    · intro fault failed
      exact .inside after ⟨rfl, rfl, rfl, rfl⟩ _ _
  · rintro fault after ⟨same, -⟩
    subst same
    exact Editor.Stepwise.refl after

/-- Saving keeps the lines and takes the note back that there are changes. -/
theorem ensures_writeFile_marked :
    (writeFile invocation).Ensures editor
      (fun reply after =>
        (reply.status ≠ "error" ∧ reply.switchTo? = none ∧ reply.ended = false) ∧
        ∃ target disk journal,
          after = { editor with buffer := editor.buffer.markSaved target, disk, journal })
      (fun _ after => editor.Worked after) := by
  simp only [writeFile, ensures_bind, ensures_refusingFiles, ensures_pure]
  refine (ensures_saveBuffer_marked _).mono ?_ (fun _ _ worked => worked)
  rintro _ after marked
  exact ⟨⟨by simp, trivial, trivial⟩, marked⟩

/-! ## Effects -/

/-- A line of a text neither saves nor quits. -/
theorem effect_entering {outcome : Except Fault Output} {after : Editor}
    (entering : editor.session.mode = .text) (candid : editor.Candid after)
    (goesOn : ∀ output, outcome = .ok output → output.kind ≠ .ended) :
    editor.LineEffect raw outcome after := by
  have other : editor.session.mode ≠ .command := by
    rw [entering]
    decide
  exact .passed candid goesOn (fun awaiting => absurd awaiting other)
    (fun awaiting => absurd awaiting other)

/-- A line that fails without more ado passes. -/
theorem effect_failed {inner : Editor} {fault : Fault} (candid : editor.Candid inner)
    (quitless : submittedLetter? raw = some quitLetter ∨
        submittedLetter? raw = some forcedQuitLetter →
      ¬editor.Accepts (CommandLine.scan (withoutLineEnd raw)) ∧ fault ≠ .refusal .unsavedChanges)
    (journal : Telemetry.Journal) :
    (∀ refusal, fault = .refusal refusal →
      editor.LineEffect raw (.ok (inner.refusalOutput refusal))
        (editor.afterRefusal inner refusal journal)) ∧
    (fault.isRoutine = false → editor.LineEffect raw (.error fault) { inner with journal }) := by
  constructor
  · rintro refusal rfl
    have answered : inner.Candid (editor.afterRefusal inner refusal journal) :=
      .of_same (.inside inner ..) rfl rfl rfl
    refine .passed (Editor.Stepwise.trans candid answered) ?_ ?_ ?_
    · intro output same
      cases same
      simp [Editor.refusalOutput]
    · intro _ quits
      obtain ⟨unaccepted, unwarned⟩ := quitless quits
      refine ⟨unaccepted, fun _ _ => ?_⟩
      simpa [Editor.afterRefusal] using unwarned
    · intro _ _ output same
      cases same
      rfl
  · intro _
    exact .passed (Editor.Stepwise.trans candid (Editor.Unlogged.logged inner journal))
      (fun output same => by cases same)
      (fun _ quits => ⟨(quitless quits).1, fun output same => by cases same⟩)
      (fun _ _ output same => by cases same)

theorem not_quits
    (other : ∀ letter, submittedLetter? raw = some letter →
      letter ∉ [writeLetter, quitLetter, forcedQuitLetter]) :
    ¬(submittedLetter? raw = some quitLetter ∨ submittedLetter? raw = some forcedQuitLetter) := by
  rintro (letter | letter)
  · exact absurd (by simp) (other _ letter)
  · exact absurd (by simp) (other _ letter)

/-- A reply that does not end the session passes, unless the line was to save or to quit. -/
theorem effect_replied {inner : Editor} {reply : Reply} (candid : editor.Candid inner)
    (goesOn : reply.ended = false)
    (other : ∀ letter, submittedLetter? raw = some letter →
      letter ∉ [writeLetter, quitLetter, forcedQuitLetter]) (journal : Telemetry.Journal) :
    (conclude reply).Ensures { inner with journal }
      (fun output after => editor.LineEffect raw (.ok output) after)
      (fun fault after => editor.LineEffect raw (.error fault) after) := by
  have logged : editor.Candid { inner with journal } :=
    Editor.Stepwise.trans candid (Editor.Unlogged.logged inner journal)
  have quitless := not_quits other
  have unsaved : submittedLetter? raw ≠ some writeLetter :=
    fun letter => absurd (by simp) (other _ letter)
  refine (keeps_conclude goesOn { inner with journal }).mono ?_ ?_
  · rintro output after ⟨concluded, kind⟩
    refine .passed (Editor.Stepwise.trans logged concluded) ?_
      (fun _ quits => absurd quits quitless) (fun _ letter => absurd letter unsaved)
    intro other same
    cases same
    exact kind
  · intro fault after concluded
    exact .passed (Editor.Stepwise.trans logged concluded) (fun output same => by cases same)
      (fun _ quits => absurd quits quitless) (fun _ letter => absurd letter unsaved)

/-- Concluding a reply that ends the session. -/
theorem ensures_conclude_ended {reply : Reply} (stays : reply.switchTo? = none)
    (ends : reply.ended = true) :
    (conclude reply).Ensures editor
      (fun output after => output = { kind := .ended, lines := reply.output } ∧
        editor.Steady after ∧ after.session = { editor.session with ended := true } ∧
        after.events = editor.events.push .sessionEnded)
      (fun _ _ => False) := by
  simp only [conclude, stays, ends, Option.filter_none, if_true, endSession, ensures_bind,
    ensures_modifySession, ensures_emit, ensures_modify, ensures_pure]
  obtain ⟨journal, told⟩ := (editor.updateSession fun session =>
    { session with ended := true }).emit_eq .sessionEnded
  rw [told]
  exact ⟨trivial, .inside .., rfl, rfl⟩

/-- What is to be ensured of a planned command, so that its line has one of the effects. -/
abbrev Effective (editor : Editor) (raw : String) : EditorM Reply → Editor → Prop :=
  Settles (editor.LineEffect raw) editor

section Commands

variable {middle : Editor} {journal : Telemetry.Journal}
  (sought : (editor.told raw journal).Sought middle)
include sought

theorem candid_planned : editor.Candid middle := by
  have told : editor.Candid (editor.told raw journal) := .of_same (.inside editor ..) rfl rfl rfl
  exact Editor.Stepwise.trans told sought.worked.candid

/-- A command that is candid passes, unless the line was to save or to quit. -/
theorem effective_candid {work : EditorM Reply} (keeps : work.Keeps Candid GoesOn)
    (other : ∀ letter, submittedLetter? raw = some letter →
      letter ∉ [writeLetter, quitLetter, forcedQuitLetter]) :
    Effective editor raw work middle := by
  have planned := candid_planned sought
  refine (keeps middle).mono ?_ ?_
  · rintro reply inner ⟨candid, goesOn⟩
    exact effect_replied (Editor.Stepwise.trans planned candid) goesOn other
  · intro fault inner candid journal
    exact effect_failed (Editor.Stepwise.trans planned candid)
      (fun quits => absurd quits (not_quits other)) journal

variable (awaiting : editor.session.mode = .command)
include awaiting

theorem effective_write (letter : submittedLetter? raw = some writeLetter) :
    Effective editor raw (writeFile invocation) middle := by
  have planned := candid_planned sought
  refine ensures_writeFile_marked.mono ?_ ?_
  · rintro reply inner ⟨⟨succeeded, stays, goesOn⟩, target, disk, journal, rfl⟩ journal'
    rw [ensures_conclude_shown stays goesOn]
    refine .saved awaiting letter (planned.kept.trans (.inside ..)) target ?_ planned.quitState
      planned.ended ?_ ?_
    · show middle.buffer.markSaved target = editor.buffer.markSaved target
      rw [sought.buffer]
      rfl
    · rw [Reply.shown, if_neg succeeded]
      split <;> simp
    · rw [Reply.shown, if_neg succeeded]
      split <;> simp
  · intro fault inner worked journal
    refine effect_failed (Editor.Stepwise.trans planned worked.candid) ?_ journal
    rw [letter]
    exact fun quits => absurd quits (by decide)

variable (accepted : editor.Accepts (CommandLine.scan (withoutLineEnd raw)))
include accepted

theorem effective_quit (letter : submittedLetter? raw = some quitLetter) :
    Effective editor raw quit middle := by
  have planned := candid_planned sought
  obtain ⟨lastSearch?, journal, rfl⟩ := sought
  simp only [Effective, Settles, quit, ensures_bind, ensures_get, ensures_ite, ensures_modifySession,
    ensures_pure, ensures_refuse]
  constructor
  · intro may journal
    refine (ensures_conclude_ended rfl rfl).mono ?_ (fun _ _ impossible => impossible.elim)
    rintro output after ⟨rfl, steady, session, -⟩
    refine .ended awaiting (.inr ⟨letter, ?_⟩) accepted
      ((planned.kept.trans (.inside ..)).trans steady.kept) steady.buffer (by rw [session])
    simpa [Editor.told] using may
  · intro unsaved journal
    have unsaved' : editor.session.quitState ≠ .refusedOnce ∧ editor.buffer.modified = true := by
      simpa [Editor.told] using unsaved
    refine ⟨?_, fun unforeseen => by cases unforeseen⟩
    rintro refusal same
    cases same
    exact .warned awaiting letter accepted unsaved'.2 unsaved'.1 (planned.kept.trans (.inside ..))
      rfl rfl rfl

theorem effective_forcedQuit (letter : submittedLetter? raw = some forcedQuitLetter) :
    Effective editor raw quitUnconditionally middle := by
  have planned := candid_planned sought
  obtain ⟨lastSearch?, journal, rfl⟩ := sought
  simp only [Effective, Settles, quitUnconditionally, ensures_bind, ensures_modifySession,
    ensures_pure]
  intro journal
  refine (ensures_conclude_ended rfl rfl).mono ?_ (fun _ _ impossible => impossible.elim)
  rintro output after ⟨rfl, steady, session, -⟩
  exact .ended awaiting (.inl letter) accepted ((planned.kept.trans (.inside ..)).trans steady.kept)
    steady.buffer (by rw [session])

end Commands

/-- The line invokes one of the editor's own commands. -/
theorem effective_invoke {middle : Editor} {journal : Telemetry.Journal}
    (sought : (editor.told raw journal).Sought middle)
    (awaiting : editor.session.mode = .command)
    (accepted : editor.Accepts (CommandLine.scan (withoutLineEnd raw)))
    (own : spec ∈ Registry.ownCommands) (letter : submittedLetter? raw = some spec.letter) :
    Effective editor raw (invoke spec invocation) middle := by
  obtain ⟨-, writes, quits, forced, keeps⟩ := Registry.own_letters spec own
  by_cases other : spec.letter ∈ [writeLetter, quitLetter, forcedQuitLetter]
  · have logged := sought.trans (.logged middle
      (middle.journal.enter { name := spec.spanName
                              metadata := [("start", toString invocation.start),
                                ("end", toString invocation.stop)] }).2)
    rw [invoke, if_neg (by simp [keeps (List.mem_cons_of_mem _ other)]), call]
    refine Settles.span ?_
    simp only [List.mem_cons, List.not_mem_nil, or_false] at other
    rcases other with isWrite | isQuit | isForced
    · rw [writes.mpr isWrite]
      exact effective_write logged awaiting (isWrite ▸ letter)
    · rw [quits.mpr isQuit]
      exact effective_quit logged awaiting accepted (isQuit ▸ letter)
    · rw [forced.mpr isForced]
      exact effective_forcedQuit logged awaiting accepted (isForced ▸ letter)
  · refine effective_candid sought (keeps_invoke own other) ?_
    intro other' same
    rw [letter] at same
    cases same
    exact other

/-- **What a line does that is submitted as text.** -/
theorem ensures_submit_entering (equipped : editor.Equipped)
    (entering : editor.session.mode = .text) (goesOn : editor.session.ended = false)
    (raw : String) :
    (submit raw).Ensures editor (fun output after => editor.LineEffect raw (.ok output) after)
      (fun fault after => editor.LineEffect raw (.error fault) after) := by
  have active := equipped.modes.active_text entering
  have concluded : ∀ (reply : Reply) (inner : Editor), editor.Candid inner → reply.ended = false →
      (conclude reply).Ensures inner
        (fun output after => editor.LineEffect raw (.ok output) after)
        (fun fault after => editor.LineEffect raw (.error fault) after) := by
    intro reply inner candid replied
    refine (keeps_conclude replied inner).mono ?_ ?_
    · rintro output after ⟨concluded, kind⟩
      refine effect_entering entering (Editor.Stepwise.trans candid concluded) ?_
      intro _ same
      cases same
      exact kind
    · intro fault after concluded
      exact effect_entering entering (Editor.Stepwise.trans candid concluded)
        (fun output same => by cases same)
  rw [ensures_submit goesOn active]
  refine Ensures.answered (((keeps_handleText (withoutLineEnd raw)).span
    (modeSpan .text) editor).mono ?_ ?_)
  · rintro reply inner ⟨candid, replied⟩
    exact concluded reply inner candid replied
  · intro fault inner candid
    refine ⟨fun refusal _ => ?_,
      fun _ => effect_entering entering candid (fun output same => by cases same)⟩
    refine (keeps_answerRefusal refusal inner).mono ?_ ?_
    · rintro reply middle ⟨answered, replied⟩
      exact concluded reply middle (Editor.Stepwise.trans candid answered) replied
    · intro fault after answered
      exact effect_entering entering (Editor.Stepwise.trans candid answered)
        (fun output same => by cases same)

/-- **What a line does that is submitted as a command.** -/
theorem ensures_submit_effect (equipped : editor.Equipped)
    (awaiting : editor.session.mode = .command) (goesOn : editor.session.ended = false)
    (raw : String) :
    (submit raw).Ensures editor (fun output after => editor.LineEffect raw (.ok output) after)
      (fun fault after => editor.LineEffect raw (.error fault) after) := by
  have active := equipped.modes.active_command awaiting
  refine ensures_submit_dispatch ⟨active, goesOn⟩ fun journal => ?_
  have accepts : ∀ line, (editor.told raw journal).Accepts line ↔ editor.Accepts line :=
    fun line => Editor.accepts_congr line rfl rfl rfl
  have registry : (editor.told raw journal).registry = Registry.own := equipped.registry
  rw [dispatch_eq, ensures_bind]
  refine (ensures_plan_bound (withoutLineEnd raw) (editor.told raw journal)).mono ?_ ?_
  · rintro request middle ⟨sought, bound, accepted⟩
    cases request with
    | visit first? last? =>
        refine effective_candid sought
          ((keeps_navigate _ first? last?).weaken fun _ plain => plain.goesOn).candid ?_
        intro letter isLetter own
        rw [submittedLetter?] at isLetter
        simp only [Request.Bound, registry, isLetter, Option.bind_some] at bound
        exact absurd bound (Registry.own_find?_isSome letter own)
    | invoke spec invocation =>
        simp only [Request.Bound, registry] at bound
        obtain ⟨letter, isLetter, isBound⟩ := Option.bind_eq_some_iff.mp bound
        obtain ⟨own, rfl⟩ := Registry.find?_own isBound
        exact effective_invoke sought awaiting ((accepts _).mp accepted) own isLetter
  · rintro fault inner ⟨sought, plain, unaccepted⟩ journal
    refine effect_failed (candid_planned sought) ?_ journal
    intro quits
    rw [← accepts]
    refine ⟨unaccepted ?_, plain.2⟩
    rcases quits with letter | letter
    · exact Editor.ignores_own registry letter (by decide)
    · exact Editor.ignores_own registry letter (by decide)

end EditorM

/-- An editor is to be made with its own commands, for any buffer. -/
def LaunchOptions.UsesOwn (options : LaunchOptions) : Prop :=
  options.table? = some Registry.own ∨ options.table? = none ∧ options.loadOwn = true

namespace Editor

variable {editor after : Editor} {raw : String} {outcome : Except Fault Output}

/-- **What a line does in an editor with its own commands.** -/
theorem Equipped.effect (equipped : editor.Equipped) (goesOn : editor.session.ended = false)
    (raw : String) : editor.LineEffect raw (editor.answer raw) (editor.next raw) := by
  refine EditorM.Ensures.run (editor.LineEffect raw) ?_
  cases mode : editor.session.mode with
  | command => exact EditorM.ensures_submit_effect equipped mode goesOn raw
  | text => exact EditorM.ensures_submit_entering equipped mode goesOn raw

/-! ## Runs -/

theorem LineEffect.kept (effect : editor.LineEffect raw outcome after) : editor.Kept after := by
  cases effect with
  | passed candid => exact candid.kept
  | saved awaiting letter kept => exact kept
  | warned awaiting letter accepted modified first kept => exact kept
  | ended awaiting letter accepted kept => exact kept

theorem Equipped.next (equipped : editor.Equipped) (raw : String) : (editor.next raw).Equipped := by
  cases ended : editor.session.ended with
  | true =>
      rw [(submit_ended ended raw).2]
      exact equipped
  | false => exact (equipped.effect ended raw).kept.equipped equipped

theorem Equipped.run (lines : List String) :
    ∀ {editor : Editor}, editor.Equipped → (editor.run lines).Equipped := by
  induction lines with
  | nil => exact fun equipped => equipped
  | cons raw rest ih => exact fun equipped => ih (equipped.next raw)

theorem Reachable.equipped (reachable : editor.Reachable) : editor.Equipped := by
  cases reachable.sound with
  | command ready bounded => exact ⟨ready.registry, ready.modes⟩
  | text ready registry fresh edited => exact ⟨registry, ready.modes⟩

/-- An editor that is launched with its own commands. -/
theorem launch_own {options : LaunchOptions} (own : options.UsesOwn)
    {journal : Telemetry.Journal} {start : Editor}
    (success : launch options journal = .ok start) :
    start.Equipped ∧ start.session = .ofConfig options.config := by
  have registry : (withoutModes options journal).registry = Registry.own := by
    rcases own with given | ⟨none, loads⟩
    · simp only [withoutModes, tableFor, given]
    · simp only [withoutModes, tableFor, none, loads, if_true]
  obtain ⟨final, launched⟩ := launch_eq options journal
  rw [launched] at success
  cases success
  exact ⟨⟨registry, rfl⟩, rfl⟩

end Editor

end LineEditor

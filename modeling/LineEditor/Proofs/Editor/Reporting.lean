import LineEditor.Proofs.Editor.Filing
import LineEditor.Proofs.Editor.Opening

/-!
# What a line tells the host

The handlers tell the host nothing, leave the mode alone and do not end the
session (`Editor.Silent`), and a transaction around them makes no difference to
that.  All that a host is told comes from around them: the line when it is
submitted, and then what becomes of it.

A line that is handled in the command mode is refused, opens text entry, ends
the session or does none of this, and in each case it is told what it says
(`Editor.CommandReport`, `Editor.Equipped.report`).  In the text mode a line is
told by `Editor.TextStep` already.

Nothing is assumed of the buffer.
-/

set_option autoImplicit false

namespace LineEditor

namespace Editor

/-- The host has been told nothing, the mode is the same, and the session goes on if it did. -/
structure Silent (before after : Editor) : Prop where
  kept : before.Kept after
  events : after.events = before.events
  mode : after.session.mode = before.session.mode
  ended : after.session.ended = before.session.ended

instance : Unlogged Silent where
  refl editor := ⟨.refl editor, rfl, rfl, rfl⟩
  trans earlier later :=
    { kept := earlier.kept.trans later.kept
      events := later.events.trans earlier.events
      mode := later.mode.trans earlier.mode
      ended := later.ended.trans earlier.ended }
  logged editor _ := ⟨.inside editor .., rfl, rfl, rfl⟩

/-- The buffer, the disk and whether the transaction is kept open may differ. -/
theorem Silent.inside (editor : Editor) (buffer : Buffer) (disk : Disk)
    (journal : Telemetry.Journal) (pending : Bool) :
    editor.Silent { editor with buffer, disk, journal, pending } :=
  ⟨.inside .., rfl, rfl, rfl⟩

theorem Worked.silent {before after : Editor} (worked : before.Worked after) :
    before.Silent after :=
  ⟨worked.framed.kept, worked.framed.events, worked.session.mode, worked.session.ended⟩

theorem leaveTransaction_silent (editor : Editor) (succeeded : Bool) :
    editor.Silent (editor.leaveTransaction succeeded) := by
  obtain ⟨change, left⟩ := editor.leaveTransaction_eq succeeded
  rw [left]
  exact .inside ..

end Editor

namespace EditorM

open Editor (Silent Worked)

section Commands

variable {α : Type} {accepts : α → Prop} {invocation : Invocation}

theorem Keeps.silent {work : EditorM α} (keeps : work.Keeps Worked accepts) :
    work.Keeps Silent accepts :=
  fun editor => (keeps editor).mono (fun _ _ kept => ⟨kept.1.silent, kept.2⟩)
    (fun _ _ kept => kept.silent)

/-- However a transaction ends, it tells the host nothing. -/
theorem Keeps.silent_transaction {work : EditorM α} (keeps : work.Keeps Silent accepts)
    (label : String) (keepOpen : α → Bool) :
    (EditorM.transaction label keepOpen work).Keeps Silent accepts := by
  intro editor
  have entered : editor.Silent (editor.enterTransaction label) := .inside editor ..
  rw [ensures_transaction]
  refine (keeps (editor.enterTransaction label)).mono ?_ ?_
  · rintro result inner ⟨silent, accepted⟩
    have reached := Editor.Stepwise.trans entered silent
    refine ⟨?_, accepted⟩
    split
    · exact Editor.Stepwise.trans reached (.inside inner ..)
    · exact Editor.Stepwise.trans reached (inner.leaveTransaction_silent true)
  · intro fault inner silent
    exact Editor.Stepwise.trans (Editor.Stepwise.trans entered silent)
      (inner.leaveTransaction_silent false)

/-! ## Replies that ask for no other mode -/

/-- A reply that succeeds and asks for no other mode; it may ask to end the session. -/
structure Stays (reply : Reply) : Prop where
  succeeded : reply.status ≠ "error"
  stays : reply.switchTo? = none

theorem Plain.toStays {reply : Reply} (plain : Plain reply) : Stays reply :=
  ⟨plain.succeeded, plain.stays⟩

theorem silent_undo : undo.Keeps Silent Stays := by
  intro editor
  simp only [undo, ensures_bind, ensures_modifyBuffer, ensures_pure]
  exact ⟨fun buffer _ => ⟨.inside editor .., by simp, rfl⟩,
    fun _ _ => Editor.Stepwise.refl editor⟩

theorem silent_writeFile : (writeFile invocation).Keeps Silent Stays := by
  intro editor
  refine ensures_writeFile_marked.mono ?_ (fun _ _ worked => worked.silent)
  rintro reply after ⟨⟨succeeded, stays, -⟩, target, disk, journal, rfl⟩
  exact ⟨.inside editor .., succeeded, stays⟩

theorem silent_quit : quit.Keeps Silent Stays := by
  intro editor
  simp only [quit, ensures_bind, ensures_get, ensures_ite, ensures_modifySession, ensures_pure,
    ensures_refuse]
  exact ⟨fun _ => ⟨⟨.inside editor .., rfl, rfl, rfl⟩, by simp, rfl⟩,
    fun _ => ⟨.inside editor .., rfl, rfl, rfl⟩⟩

theorem silent_quitUnconditionally : quitUnconditionally.Keeps Silent Stays := by
  intro editor
  simp only [quitUnconditionally, ensures_bind, ensures_modifySession, ensures_pure]
  exact ⟨⟨.inside editor .., rfl, rfl, rfl⟩, by simp, rfl⟩

/-- **The editor's own handlers are silent and ask for no other mode**, but for those that open text
entry. -/
theorem silent_builtin (handler : Builtin) (notOpening : handler ∉ opening) :
    (handler.run invocation).Keeps Silent Stays := by
  by_cases undoes : handler = .undo
  · rw [undoes]
    exact silent_undo
  by_cases writes : handler = .writeFile
  · rw [writes]
    exact silent_writeFile
  by_cases quits : handler = .quit
  · rw [quits]
    exact silent_quit
  by_cases forced : handler = .quitUnconditionally
  · rw [forced]
    exact silent_quitUnconditionally
  exact ((keeps_builtin_plain invocation handler undoes writes quits forced
    notOpening).weaken fun _ plain => plain.toStays).silent

/-- Commands are as silent as their handlers. -/
theorem silent_invoke {spec : CommandSpec} {handler : Builtin}
    (isBuiltin : spec.handler = .builtin handler) (notOpening : handler ∉ opening) :
    (invoke spec invocation).Keeps Silent Stays := by
  have called : (call spec invocation).Keeps Silent Stays := by
    rw [call, isBuiltin]
    exact (silent_builtin handler notOpening).span _
  exact .ite (called.silent_transaction _ _) called

/-! ## Replies that open text entry -/

/-- Text entry is to be opened behind a line that is there. -/
structure Opens (before : Editor) (reply : Reply) (after : Editor) : Prop where
  worked : before.Worked after
  reply : reply = { status := "insert", switchTo? := some Mode.text.name }
  start : 0 ≤ after.session.insertAfter
  within : after.session.insertAfter ≤ after.buffer.lineCount

theorem Opens.behind {before middle after : Editor} {reply : Reply} (worked : before.Worked middle)
    (opens : Opens middle reply after) : Opens before reply after :=
  ⟨Editor.Stepwise.trans worked opens.worked, opens.reply, opens.start, opens.within⟩

variable {editor : Editor}

theorem opens_openText (after : Int) :
    (openText after).Ensures editor (Opens editor) (fun _ _ => False) := by
  refine (ensures_openText_at after).mono ?_ (fun _ _ impossible => impossible)
  rintro reply inner ⟨isReply, rfl⟩
  refine ⟨.inside editor ?_ _ _, isReply, ?_, ?_⟩
  · exact ⟨rfl, rfl, rfl, rfl⟩
  · exact Int.le_max_left _ _
  · show max 0 (min after (editor.buffer.lineCount : Int)) ≤ editor.buffer.lineCount
    omega

theorem opens_changeLines :
    (changeLines invocation).Ensures editor (Opens editor) (fun _ after => editor.Worked after) := by
  rw [changeLines, ensures_bind]
  refine (steps_modifyBuffer (Buffer.amends_removeRange _ _) editor).mono ?_
    (fun _ _ worked => worked)
  rintro _ middle ⟨worked, -⟩
  exact (opens_openText _).mono (fun _ _ opens => opens.behind worked)
    (fun _ _ impossible => impossible.elim)

/-- **Each of the handlers that open text entry does so, or it fails and keeps to its work.** -/
theorem opens_builtin {handler : Builtin} (isOpening : handler ∈ opening) :
    (handler.run invocation).Ensures editor (Opens editor) (fun _ after => editor.Worked after) := by
  have opened : ∀ after, (openText after).Ensures editor (Opens editor)
      (fun _ after => editor.Worked after) := fun after =>
    (opens_openText after).mono (fun _ _ opens => opens) (fun _ _ impossible => impossible.elim)
  simp only [opening, List.mem_cons, List.not_mem_nil, or_false] at isOpening
  rcases isOpening with rfl | rfl | rfl
  · exact opened _
  · exact opens_changeLines
  · exact opened _

/-- Text entry has been opened in a transaction, which is kept open. -/
structure KeepsOpen (before : Editor) (reply : Reply) (after : Editor) : Prop where
  silent : before.Silent after
  reply : reply = { status := "insert", switchTo? := some Mode.text.name }
  pending : after.pending = true
  opened : after.buffer.opened?.isSome
  start : 0 ≤ after.session.insertAfter
  within : after.session.insertAfter ≤ after.buffer.lineCount

theorem ensures_invoke_opening {spec : CommandSpec} {handler : Builtin}
    (isBuiltin : spec.handler = .builtin handler) (isOpening : handler ∈ opening)
    (mutates : spec.mutates = true) :
    (invoke spec invocation).Ensures editor (KeepsOpen editor)
      (fun _ after => editor.Silent after) := by
  have entered : editor.Silent (editor.enterTransaction spec.letter.toString) := .inside editor ..
  have opened := (editor.buffer.enter_keeps spec.letter.toString).2
  rw [invoke, if_pos mutates, ensures_transaction, call, ensures_span, isBuiltin]
  refine (opens_builtin isOpening).mono ?_ ?_
  · rintro reply inner ⟨worked, rfl, start, within⟩
    have silent := Editor.Stepwise.trans entered
      (Editor.Stepwise.trans (Editor.Unlogged.logged _ _) worked.silent)
    obtain ⟨count, edited⟩ := worked.buffer.edited opened
    rw [if_pos (by decide)]
    refine ⟨Editor.Stepwise.trans silent (.inside inner ..), rfl, rfl, ?_, start, within⟩
    show inner.buffer.opened?.isSome
    rw [edited.opened]
    exact opened
  · intro fault inner worked
    have silent := Editor.Stepwise.trans entered
      (Editor.Stepwise.trans (Editor.Unlogged.logged _ _) worked.silent)
    exact Editor.Stepwise.trans (Editor.Stepwise.trans silent (Editor.Unlogged.logged inner _))
      (Editor.leaveTransaction_silent _ false)

end Commands

end EditorM

/-- The commands that open text entry run in a transaction. -/
theorem Registry.own_opening_mutates : ∀ spec ∈ Registry.ownCommands,
    ∀ handler ∈ EditorM.opening, spec.handler = .builtin handler → spec.mutates = true := by
  decide

namespace Editor

variable {editor inner after : Editor} {raw : String} {outcome : Except Fault Output}

/-- The host has been told of a submitted line, and then of `reported`. -/
def Reports (before : Editor) (raw : String) (reported : List Event) (after : Editor) : Prop :=
  after.events.toList = before.events.toList ++ .commandSubmitted (withoutLineEnd raw) :: reported

/-- What a host is told of a line that is handled in the command mode. -/
inductive CommandReport (before : Editor) (raw : String) : Except Fault Output → Editor → Prop
  | passed {outcome : Except Fault Output} {after : Editor} (reports : before.Reports raw [] after)
      (mode : after.session.mode = .command) (goesOn : after.session.ended = false)
      (unrefused : ∀ output, outcome = .ok output → output.kind ≠ .error) :
      CommandReport before raw outcome after
  | refused {output : Output} {after : Editor} (refusal : Refusal)
      (reports : before.Reports raw [.commandRefused refusal] after)
      (mode : after.session.mode = .command) (goesOn : after.session.ended = false)
      (kind : output.kind = .error) : CommandReport before raw (.ok output) after
  | begun {output : Output} {after : Editor}
      (reports : before.Reports raw [.textBegun after.session.insertAfter] after)
      (ready : after.TextReady) (entered : after.entered = 0) (kind : output.kind ≠ .error) :
      CommandReport before raw (.ok output) after
  | ended {output : Output} {after : Editor} (reports : before.Reports raw [.sessionEnded] after)
      (mode : after.session.mode = .command) (ended : after.session.ended = true)
      (kind : output.kind ≠ .error) : CommandReport before raw (.ok output) after

/-- What is told once a line has been submitted and its command has run. -/
theorem Silent.reports {journal : Telemetry.Journal} (silent : (editor.told raw journal).Silent inner)
    (same : after.events = inner.events) : editor.Reports raw [] after := by
  rw [Reports, same, silent.events]
  exact Array.toList_push

theorem Silent.reports_push {journal : Telemetry.Journal} {event : Event}
    (silent : (editor.told raw journal).Silent inner)
    (pushed : after.events = inner.events.push event) : editor.Reports raw [event] after := by
  rw [Reports, pushed, silent.events]
  simp [told]

end Editor

namespace EditorM

open Editor (Silent CommandReport)

variable {editor middle : Editor} {raw : String} {spec : CommandSpec} {invocation : Invocation}
  {journal : Telemetry.Journal}

section Silent

variable (awaiting : editor.session.mode = .command) (goesOn : editor.session.ended = false)
  {inner : Editor} (silent : (editor.told raw journal).Silent inner)
include awaiting goesOn silent

/-- A fault after which nothing has been told is a refusal that is told, or it escapes. -/
theorem report_failed (fault : Fault) (journal' : Telemetry.Journal) :
    (∀ refusal, fault = .refusal refusal →
      editor.CommandReport raw (.ok (inner.refusalOutput refusal))
        (editor.afterRefusal inner refusal journal')) ∧
    (fault.isRoutine = false →
      editor.CommandReport raw (.error fault) { inner with journal := journal' }) := by
  have mode : inner.session.mode = .command := silent.mode.trans awaiting
  have same : inner.session.ended = false := silent.ended.trans goesOn
  constructor
  · intro refusal _
    exact .refused refusal (silent.reports_push rfl) mode same rfl
  · intro _
    exact .passed (silent.reports rfl) mode same (fun output impossible => by cases impossible)

/-- A reply that asks for no other mode is not told, unless it ends the session. -/
theorem report_stays {reply : Reply} (stays : Stays reply) (journal' : Telemetry.Journal) :
    (conclude reply).Ensures { inner with journal := journal' }
      (fun output after => editor.CommandReport raw (.ok output) after)
      (fun fault after => editor.CommandReport raw (.error fault) after) := by
  have mode : inner.session.mode = .command := silent.mode.trans awaiting
  have same : inner.session.ended = false := silent.ended.trans goesOn
  cases ends : reply.ended with
  | false =>
      rw [ensures_conclude_shown stays.stays ends]
      refine .passed (silent.reports rfl) mode same ?_
      rintro output isShown
      cases isShown
      rw [Reply.shown, if_neg stays.succeeded]
      split
      · simp
      · simp
  | true =>
      refine (ensures_conclude_ended stays.stays ends).mono ?_
        (fun _ _ impossible => impossible.elim)
      rintro output after ⟨rfl, -, session, events⟩
      refine .ended (silent.reports_push events) ?_ ?_ (by simp)
      · rw [session]
        exact mode
      · rw [session]

/-- Opening text entry is told with the place for the text. -/
theorem report_opening (modes : editor.BothModes) {reply : Reply}
    (opens : KeepsOpen middle reply inner) (journal' : Telemetry.Journal) :
    (conclude reply).Ensures { inner with journal := journal' }
      (fun output after => editor.CommandReport raw (.ok output) after)
      (fun fault after => editor.CommandReport raw (.error fault) after) := by
  obtain ⟨-, rfl, pending, opened, start, within⟩ := opens
  have mode : inner.session.mode = .command := silent.mode.trans awaiting
  have same : inner.session.ended = false := silent.ended.trans goesOn
  have both : inner.BothModes := silent.kept.modes.trans modes
  refine Ensures.mono (ensures_conclude_text ?_ ?_ (by decide) rfl rfl rfl) ?_
    (fun _ _ impossible => False.elim impossible)
  · exact both
  · exact mode
  rintro output after ⟨rfl, steady, session, events, entered⟩
  have place : after.session.insertAfter = inner.session.insertAfter := by rw [session]
  refine .begun ?_ ⟨steady.kept.modes.trans both, by rw [session], steady.pending.trans pending, ?_,
    ?_, ?_, ?_⟩ entered (by decide)
  · rw [place]
    exact silent.reports_push events
  · rw [steady.buffer]
    exact opened
  · rw [place]
    exact start
  · rw [place, steady.buffer]
    exact within
  · rw [session]
    exact same

end Silent

/-- **What is told of a line that is submitted as a command.** -/
theorem ensures_submit_report (equipped : editor.Equipped)
    (awaiting : editor.session.mode = .command) (goesOn : editor.session.ended = false)
    (raw : String) :
    (submit raw).Ensures editor (fun output after => editor.CommandReport raw (.ok output) after)
      (fun fault after => editor.CommandReport raw (.error fault) after) := by
  have active := equipped.modes.active_command awaiting
  refine ensures_submit_dispatch ⟨active, goesOn⟩ fun journal => ?_
  -- A command whose reply asks for no other mode.
  have settled : ∀ (work : EditorM Reply) (middle : Editor),
      (editor.told raw journal).Silent middle → work.Keeps Silent Stays →
        Settles (editor.CommandReport raw) editor work middle := by
    intro work middle planned keeps
    refine (keeps middle).mono ?_ ?_
    · rintro reply inner ⟨silent, stays⟩
      exact report_stays awaiting goesOn (Editor.Stepwise.trans planned silent) stays
    · intro fault inner silent
      exact report_failed awaiting goesOn (Editor.Stepwise.trans planned silent) fault
  rw [dispatch_eq, ensures_bind]
  refine (ensures_plan_bound (withoutLineEnd raw) (editor.told raw journal)).mono ?_ ?_
  · rintro request middle ⟨sought, bound, -⟩
    have planned : (editor.told raw journal).Silent middle := sought.worked.silent
    cases request with
    | visit first? last? =>
        exact settled _ middle planned
          ((keeps_navigate _ first? last?).weaken fun _ plain => plain.toStays).silent
    | invoke spec invocation =>
        have registry : (editor.told raw journal).registry = Registry.own := equipped.registry
        simp only [Request.Bound, registry] at bound
        obtain ⟨letter, -, isBound⟩ := Option.bind_eq_some_iff.mp bound
        obtain ⟨own, -⟩ := Registry.find?_own isBound
        obtain ⟨handler, isBuiltin⟩ := Registry.own_builtin own
        by_cases isOpening : handler ∈ opening
        · have mutates := Registry.own_opening_mutates spec own handler isOpening isBuiltin
          refine (ensures_invoke_opening isBuiltin isOpening mutates).mono ?_ ?_
          · intro reply inner opens
            exact report_opening awaiting goesOn (Editor.Stepwise.trans planned opens.silent)
              equipped.modes opens
          · intro fault inner silent
            exact report_failed awaiting goesOn (Editor.Stepwise.trans planned silent) fault
        · exact settled _ middle planned (silent_invoke isBuiltin isOpening)
  · rintro fault inner ⟨sought, -⟩
    exact report_failed awaiting goesOn sought.worked.silent fault

end EditorM

/-- What a host is told of a line, from any buffer. -/
theorem Editor.Equipped.report {editor : Editor} (equipped : editor.Equipped)
    (awaiting : editor.session.mode = .command) (goesOn : editor.session.ended = false)
    (raw : String) : editor.CommandReport raw (editor.answer raw) (editor.next raw) :=
  EditorM.Ensures.run (editor.CommandReport raw)
    (EditorM.ensures_submit_report equipped awaiting goesOn raw)

end LineEditor

import LineEditor.Proofs.Editor.Recording
import LineEditor.Proofs.Editor.UndoStack

/-!
# How transactions are settled

A command that changes the document begins a transaction (`Editor.begunLabel?`),
which is settled when it is left: it is committed or rolled back, and the log is
told which (`Settlement`).  Text entry leaves it open, for the line that closes
the text to settle.

`Editor.Leaves` says of a stretch of work that a transaction is either still open
behind it, or that the log has been told how it ended; nothing else is said of
transactions.  It holds of a submitted command line and the transaction that it
begins (`EditorM.ensures_submit_leaves`), and of a line of text and the
transaction that is open for it (`EditorM.ensures_submit_text_leaves`).
-/

set_option autoImplicit false

namespace LineEditor

open Telemetry (Call Journal Logger Recorder Span Trace)

/-- A transaction has been settled: its label, and whether it was committed or rolled back. -/
structure Settlement where
  label : String
  committed : Bool
  deriving DecidableEq

namespace Settlement

/-- What the log is told of how a transaction ended. -/
def outcome (settlement : Settlement) : String :=
  if settlement.committed then "commit" else "rollback"

/-- A call tells the log of a settlement. -/
def ReportedBy (settlement : Settlement) (call : Call) : Prop :=
  ∃ (logger : Logger) (name : String),
    call = logger.log .debug (Telemetry.reportText ++ settlement.outcome)
      [("buffer", name), ("label", settlement.label)]

theorem ReportedBy.isReport {settlement : Settlement} {call : Call}
    (reported : settlement.ReportedBy call) : call.isReport = true := by
  obtain ⟨logger, name, rfl⟩ := reported
  obtain ⟨rest, fields?, message⟩ := logger.log_eq .debug
    (Telemetry.reportText ++ settlement.outcome) [("buffer", name), ("label", settlement.label)]
  rw [message, Call.isReport, List.isPrefixOf_iff_prefix, String.toList_append,
    String.toList_append, List.append_assoc]
  exact List.prefix_append _ _

end Settlement

namespace Editor

/-- The label of the transaction that is open. -/
def openLabel? (editor : Editor) : Option String :=
  editor.buffer.opened?.map (·.label)

/-- The label of the transaction that a planned line begins. -/
def plannedLabel? : Except Fault EditorM.Request → Option String
  | .ok (.invoke spec _) => if spec.mutates then some spec.letter.toString else none
  | _ => none

/-- The label of the transaction that a line begins, which is a line that invokes a command for
changing the document. -/
def begunLabel? (editor : Editor) (raw : String) : Option String :=
  if editor.session.ended = false ∧ editor.session.mode = .command then
    plannedLabel? ((EditorM.plan (CommandLine.scan (withoutLineEnd raw))).runOn editor).1
  else none

/-- The log has been told of some settlements, and of no others. -/
def Reported (settlements : List Settlement) (before after : Editor) : Prop :=
  ∃ calls, before.Logs calls after ∧
    List.Forall₂ Settlement.ReportedBy settlements (calls.filter Call.isReport)

section Reported

variable {before middle after : Editor} {front back : List Settlement}

theorem Reported.trans (earlier : before.Reported front middle) (later : middle.Reported back after) :
    before.Reported (front ++ back) after := by
  obtain ⟨callsFront, tellsFront, reportedFront⟩ := earlier
  obtain ⟨callsBack, tellsBack, reportedBack⟩ := later
  refine ⟨callsFront ++ callsBack, tellsFront.trans tellsBack, ?_⟩
  rw [List.filter_append]
  exact List.rel_append reportedFront reportedBack

theorem Told.reports_nil (told : before.Told Call.IsQuiet after) : before.Reported [] after := by
  obtain ⟨calls, quiet, tells⟩ := told
  refine ⟨calls, tells, ?_⟩
  rw [Telemetry.filter_isReport_of_quiet quiet]
  exact .nil

/-- A settlement is told to the log once. -/
theorem reports_event (journal : Journal) (settlement : Settlement) (name : String) :
    ∃ calls, Journal.Adds calls journal
        (journal.event ("buffer." ++ settlement.outcome)
          [("buffer", name), ("label", settlement.label)]) ∧
      List.Forall₂ Settlement.ReportedBy [settlement] (calls.filter Call.isReport) := by
  obtain ⟨made, logger, isMade, -, adds⟩ := journal.message_told journal.defaultName .debug
    ("event::" ++ ("buffer." ++ settlement.outcome))
      [("buffer", name), ("label", settlement.label)]
  refine ⟨_, adds, ?_⟩
  have reported : settlement.ReportedBy
      (logger.log .debug ("event::" ++ ("buffer." ++ settlement.outcome))
        [("buffer", name), ("label", settlement.label)]) := by
    refine ⟨logger, name, ?_⟩
    rw [← String.append_assoc]
    rfl
  have quiet : ∀ call ∈ made, call.IsQuiet := fun call member => by rw [isMade call member]; rfl
  rw [List.filter_append, Telemetry.filter_isReport_of_quiet quiet, List.nil_append,
    List.filter_cons_of_pos reported.isReport]
  exact .cons reported .nil

/-- Leaving the outermost transaction settles it. -/
theorem reports_leaveTransaction {editor : Editor} {checkpoint : Checkpoint}
    (opened : editor.buffer.opened? = some checkpoint) (outermost : editor.buffer.depth = 0)
    (committed : Bool) :
    editor.Reported [⟨checkpoint.label, committed⟩] (editor.leaveTransaction committed) := by
  obtain ⟨calls, adds, reported⟩ := reports_event editor.journal ⟨checkpoint.label, committed⟩
    (if committed then editor.buffer.commit else editor.buffer.rollback).name
  refine ⟨calls, ?_, reported⟩
  rw [leaveTransaction, opened, outermost]
  exact adds

end Reported

/-! ## Leaving a transaction -/

/-- Of a transaction that has been begun, if there is one, the log is told how it ended, unless it
stays open. -/
structure Leaves (begun? : Option String) (stays committed : Bool) (before after : Editor) :
    Prop where
  reported : before.Reported (if stays then [] else begun?.toList.map (⟨·, committed⟩)) after
  openLabel : after.openLabel? = if stays then begun? else none

section Leaves

variable {editor before middle inner after : Editor} {begun? : Option String}
  {stays committed : Bool}

/-- What is quiet may come before. -/
theorem Leaves.behind (leaves : middle.Leaves begun? stays committed after)
    (earlier : before.Told Call.IsQuiet middle) : before.Leaves begun? stays committed after := by
  have reported := earlier.reports_nil.trans leaves.reported
  rw [List.nil_append] at reported
  exact ⟨reported, leaves.openLabel⟩

/-- What is quiet and does not touch the transaction may follow. -/
theorem Leaves.onward (leaves : before.Leaves begun? stays committed inner)
    (later : inner.Told Call.IsQuiet after)
    (same : after.buffer.opened? = inner.buffer.opened?) :
    before.Leaves begun? stays committed after := by
  have reported := leaves.reported.trans later.reports_nil
  rw [List.append_nil] at reported
  refine ⟨reported, ?_⟩
  rw [← leaves.openLabel, openLabel?, same, openLabel?]

/-- The end of a span may follow. -/
theorem Leaves.leave (leaves : before.Leaves begun? stays committed inner) (span : Telemetry.Span)
    (fault? : Option Fault) :
    before.Leaves begun? stays committed (inner.updateJournal (·.leave span fault?)) :=
  leaves.onward (inner.told_leave span fault?) rfl

/-- Where no transaction is begun, none is left. -/
theorem leaves_none (quiet : before.Told Call.IsQuiet after)
    (closed : after.buffer.opened? = none) (stays committed : Bool) :
    before.Leaves none stays committed after := by
  refine ⟨?_, ?_⟩
  · have none : (if stays then [] else (none : Option String).toList.map
        fun label => (⟨label, committed⟩ : Settlement)) = [] := by cases stays <;> rfl
    rw [none]
    exact quiet.reports_nil
  · rw [openLabel?, closed]
    cases stays <;> rfl

/-- The transaction that was opened last is left, one way or the other. -/
theorem leaves_open {checkpoint : Checkpoint}
    (quiet : before.Told Call.IsQuiet inner) (opened : inner.buffer.opened? = some checkpoint)
    (outermost : inner.buffer.depth = 0) (committed : Bool) :
    before.Leaves (some checkpoint.label) false committed (inner.leaveTransaction committed) := by
  obtain ⟨change, left⟩ := inner.leaveTransaction_eq committed
  refine ⟨quiet.reports_nil.trans (reports_leaveTransaction opened outermost committed), ?_⟩
  rw [left, openLabel?, updateJournal_buffer]
  cases committed with
  | true => exact congrArg _ (congrArg Buffer.opened? (Buffer.commit_outermost opened outermost))
  | false =>
      exact congrArg _ (congrArg Buffer.opened? (Buffer.rollback_outermost opened outermost))

end Leaves

end Editor

namespace EditorM

open Editor (Told)

variable {editor : Editor} {spec : CommandSpec} {invocation : Invocation}

/-! ## Command lines -/

theorem quiet_call (own : spec ∈ Registry.ownCommands) :
    (call spec invocation).Steps (Told Call.IsQuiet) := by
  obtain ⟨handler, isBuiltin⟩ := Registry.own_builtin own
  rw [call, isBuiltin]
  exact (quiet_builtin invocation handler).quiet_span _

section Invoked

variable (own : spec ∈ Registry.ownCommands) (closed : editor.buffer.Closed)
  (fits : invocation.Fits spec.arity editor.buffer.lastLine)
include own closed fits

/-- A command that changes the document is committed or rolled back, unless it opens text entry. -/
theorem ensures_transaction_leaves (mutates : spec.mutates = true) :
    (transaction spec.letter.toString opensText (call spec invocation)).Ensures editor
      (fun reply inner => editor.Leaves (some spec.letter.toString) (opensText reply) true inner)
      (fun _ inner => editor.Leaves (some spec.letter.toString) false false inner) := by
  rw [ensures_transaction]
  refine ((ensures_call own ?_ ?_).and (quiet_call own _)).mono ?_ ?_
  · intro _
    rw [Editor.enterTransaction, Buffer.enter_opened? closed]
    rfl
  · rw [Editor.enterTransaction, Buffer.enter_closed closed]
    exact fits
  · rintro reply inner ⟨ends, told, -⟩
    -- Opening the transaction has told the log nothing.
    replace told : editor.Told Call.IsQuiet inner := told
    rw [CommandSpec.ends_mutating mutates] at ends
    obtain ⟨count, edited⟩ := ends.buffer
    have opened := edited.opened_entered closed
    cases opens : opensText reply with
    | true =>
        refine ⟨told.reports_nil, ?_⟩
        exact congrArg _ opened
    | false => exact Editor.leaves_open told opened (edited.depth_entered closed) true
  · rintro fault inner ⟨declines, told⟩
    replace told : editor.Told Call.IsQuiet inner := told
    have same : inner.buffer = editor.buffer.enter spec.letter.toString := declines.declined.buffer
    have unedited : (editor.buffer.enter spec.letter.toString).Edited 0 inner.buffer :=
      same ▸ .refl _
    exact Editor.leaves_open told (unedited.opened_entered closed) (unedited.depth_entered closed)
      false

/-- A command that changes no lines begins no transaction. -/
theorem ensures_call_leaves (keeps : ¬spec.mutates = true) (stays committed : Reply → Bool) :
    (call spec invocation).Ensures editor
      (fun reply inner => editor.Leaves none (stays reply) (committed reply) inner)
      (fun _ inner => editor.Leaves none false false inner) := by
  refine ((ensures_call own (fun mutates => absurd mutates keeps) fits).and
    (quiet_call own _)).mono ?_ ?_
  · rintro reply inner ⟨ends, told, -⟩
    refine Editor.leaves_none told ?_ _ _
    rw [CommandSpec.Ends, if_neg keeps] at ends
    split at ends
    · obtain ⟨entry, rest, restored⟩ := Buffer.undo?_restored ends.buffer
      exact restored.opened.trans closed.opened
    · exact ends.buffer.opened.trans closed.opened
  · rintro fault inner ⟨declines, told⟩
    refine Editor.leaves_none told ?_ _ _
    rw [declines.declined.buffer]
    exact closed.opened

/-- **What a command begins is left the way that it ends**, unless it opens text entry. -/
theorem ensures_invoke_leaves :
    (invoke spec invocation).Ensures editor
      (fun reply inner => editor.Leaves (Editor.plannedLabel? (.ok (.invoke spec invocation)))
        (opensText reply) true inner)
      (fun _ inner => editor.Leaves (Editor.plannedLabel? (.ok (.invoke spec invocation)))
        false false inner) := by
  rw [invoke, Editor.plannedLabel?]
  split
  · rename_i mutates
    exact ensures_transaction_leaves own closed fits mutates
  · rename_i keeps
    exact ensures_call_leaves own closed fits keeps opensText fun _ => true

end Invoked

/-- The transaction that a command line begins is committed unless the line fails. -/
theorem ensures_dispatch_leaves (text : String) (awaiting : editor.Awaiting) :
    (dispatch (CommandLine.scan text)).Ensures editor
      (fun reply inner => editor.Leaves
        (Editor.plannedLabel? ((plan (CommandLine.scan text)).runOn editor).1) (opensText reply)
        true inner)
      (fun _ inner => editor.Leaves
        (Editor.plannedLabel? ((plan (CommandLine.scan text)).runOn editor).1) false false
        inner) := by
  have closed := awaiting.closed.opened
  have quiet : (plan (CommandLine.scan text)).Steps (Told Call.IsQuiet) := told_plan _
  rw [dispatch_eq, ensures_bind]
  refine ((ensures_plan text awaiting.placed).traced.and (quiet editor)).mono ?_ ?_
  · rintro request middle ⟨⟨⟨sought, fits⟩, run⟩, told, -⟩
    have awaiting' := sought.awaiting awaiting
    rw [run]
    cases request with
    | visit first? last? =>
        have quiet : (navigate (CommandLine.scan text) first? last?).Steps (Told Call.IsQuiet) :=
          told_navigate _ first? last?
        refine ((ensures_navigate _ fits.2).and (quiet middle)).mono ?_ ?_
        · rintro reply inner ⟨consulted, later, -⟩
          exact Editor.leaves_none (Editor.Stepwise.trans told later)
            (consulted.buffer.opened.trans awaiting'.closed.opened) _ _
        · rintro fault inner ⟨⟨rfl, -⟩, later⟩
          exact Editor.leaves_none (Editor.Stepwise.trans told later) awaiting'.closed.opened _ _
    | invoke spec invocation =>
        obtain ⟨found, fits⟩ := fits
        rw [awaiting'.registry] at found
        obtain ⟨letter, -, isBound⟩ := Option.bind_eq_some_iff.mp found
        obtain ⟨own, -⟩ := Registry.find?_own isBound
        exact (ensures_invoke_leaves own awaiting'.closed fits).mono
          (fun reply inner leaves => leaves.behind told)
          (fun fault inner leaves => leaves.behind told)
  · rintro fault middle ⟨⟨⟨sought, -⟩, run⟩, told⟩
    rw [run]
    exact Editor.leaves_none told (sought.buffer ▸ closed) _ _

/-- Concluding a reply that asks for no other mode is quiet. -/
theorem quiet_conclude_stays {reply : Reply} (stays : reply.switchTo? = none) :
    (conclude reply).Steps (Told Call.IsQuiet) := by
  refine steps_conclude ?_ fun _ => (told_endSession _).told_mono fun _ ordinary => ordinary.quiet
  intro name asked
  rw [stays] at asked
  cases asked

/-- That the mode is switched is told quietly. -/
theorem quiet_switch (editor : Editor) (name : String) :
    editor.Told Call.IsQuiet
      (editor.updateJournal (·.event "mode.switch" [("mode", name)])) :=
  (editor.told_message (by decide) (by decide +kernel) _).mono fun _ ordinary => ordinary.quiet

theorem quiet_emit (editor : Editor) (event : Event) :
    editor.Told Call.IsQuiet (editor.emit event) :=
  (editor.told_emit event).mono fun _ ordinary => ordinary.quiet

/-- Opening text entry is quiet. -/
theorem quiet_conclude_text (modes : editor.BothModes) (awaiting : editor.session.mode = .command)
    {reply : Reply} (succeeded : reply.status ≠ "error") (goesOn : reply.ended = false)
    (switch : reply.switchTo? = some Mode.text.name) (silent : reply.output = []) :
    (conclude reply).Ensures editor (fun _ after => editor.Told Call.IsQuiet after)
      (fun _ _ => False) := by
  have registered : editor.modes.get? .text = some .text := by rw [modes]; rfl
  have active := modes.active_command awaiting
  rw [ensures_conclude_switch switch succeeded goesOn silent,
    ensures_switchMode registered active (by simp [awaiting])]
  simp only [leaveMode, enterMode, beginText, ensures_bind, ensures_modify, ensures_get,
    ensures_emit, ensures_pure]
  let begun : Editor :=
    { editor with session := { editor.session with mode := .text }, entered := 0 }
  have told : begun.Told Call.IsQuiet _ := Editor.Stepwise.trans
    (quiet_emit begun (.textBegun editor.session.insertAfter)) (quiet_switch _ Mode.text.name)
  exact told

/-- A completed line is concluded without touching its transaction. -/
theorem ensures_conclude_leaves {before started inner : Editor} {begun? : Option String}
    {letter? : Option Char} {reply : Reply} (modes : started.BothModes)
    (awaiting : started.session.mode = .command) (completes : started.Completes letter? reply inner)
    (leaves : before.Leaves begun? (opensText reply) true inner) :
    (conclude reply).Ensures inner
      (fun output after => output.kind ≠ .error ∧
        before.Leaves begun? (opensText reply) true after)
      (fun _ _ => False) := by
  have onward : reply.status ≠ "error" → reply.switchTo? = none →
      (conclude reply).Ensures inner
        (fun output after => output.kind ≠ .error ∧
          before.Leaves begun? (opensText reply) true after)
        (fun _ _ => False) := by
    intro succeeded stays
    refine ((ensures_conclude_stays succeeded stays).and (quiet_conclude_stays stays inner)).mono
      ?_ (fun _ _ impossible => impossible.1)
    rintro output after ⟨⟨kind, steady, -⟩, told, -⟩
    exact ⟨kind, leaves.onward told (by rw [steady.buffer])⟩
  cases completes with
  | consulted other consulted => exact onward consulted.succeeded consulted.stays
  | committed other committed => exact onward committed.succeeded committed.stays
  | opened other opened =>
      have modesInner : inner.BothModes := opened.framed.modes.trans modes
      have awaitingInner : inner.session.mode = .command := by
        rw [opened.session]
        exact awaiting
      refine ((ensures_conclude_text modesInner awaitingInner opened.succeeded opened.goesOn
        opened.switch opened.output).and (quiet_conclude_text modesInner awaitingInner
          opened.succeeded opened.goesOn opened.switch opened.output)).mono ?_
        (fun _ _ impossible => impossible.1)
      rintro output after ⟨⟨rfl, steady, -⟩, told⟩
      exact ⟨by decide, leaves.onward told (by rw [steady.buffer])⟩
  | undone same undone =>
      obtain rfl := undone.reply
      exact onward (by decide) rfl

/-- Answering a refusal does not touch the transaction either. -/
theorem ensures_refused_leaves {before inner : Editor} {begun? : Option String}
    {stays committed : Bool} (refusal : Refusal)
    (leaves : before.Leaves begun? stays committed inner) :
    (answerRefusal refusal).Ensures inner
      (fun reply middle => (conclude reply).Ensures middle
        (fun output after => output.kind = .error ∧ before.Leaves begun? stays committed after)
        (fun _ _ => False))
      (fun _ _ => False) := by
  refine ((ensures_answerRefusal refusal).and (told_answerRefusal refusal inner)).mono ?_
    (fun _ _ impossible => impossible.1)
  rintro reply middle ⟨⟨⟨failed, noSwitch, goesOn⟩, steady, -⟩, answered, -⟩
  refine (ensures_conclude_error failed noSwitch goesOn).mono ?_ (fun _ _ impossible => impossible)
  rintro output after ⟨kind, rfl⟩
  exact ⟨kind, leaves.onward (answered.mono fun _ ordinary => ordinary.quiet)
    (congrArg Buffer.opened? steady.buffer)⟩

end EditorM

namespace Editor

/-- The editor at which a submitted line is dispatched: the host has been told of the line, and two
spans have been entered. -/
def dispatching (editor : Editor) (raw : String) : Editor :=
  let entered := { editor with journal := (editor.journal.enter (EditorM.modeSpan .command)).2 }
  let told := entered.emit (.commandSubmitted (withoutLineEnd raw))
  let request := EditorM.dispatchSpan (CommandLine.scan (withoutLineEnd raw))
  { told with journal := (told.journal.enter request).2 }

section Dispatching

variable (editor : Editor) (raw : String)

theorem quiet_dispatching : editor.Told Call.IsQuiet (editor.dispatching raw) :=
  Stepwise.trans (editor.told_enter (EditorM.modeSpan .command))
    (Stepwise.trans (EditorM.quiet_emit _ _) (told_enter _ _))

theorem steady_dispatching : editor.Steady (editor.dispatching raw) :=
  (Steady.inside editor ..).trans ((emit_steady _ _).trans (.inside ..))

theorem session_dispatching : (editor.dispatching raw).session = editor.session :=
  emit_session _ _

variable {editor} (ready : editor.CommandReady)
include ready

theorem awaiting_dispatching : (editor.dispatching raw).Awaiting := by
  obtain ⟨kept, buffer, -⟩ := editor.steady_dispatching raw
  exact ⟨kept.registry.trans ready.registry, buffer ▸ ready.placed, buffer ▸ ready.closed⟩

/-- What a line begins is planned where it is dispatched. -/
theorem begunLabel?_eq (goesOn : editor.session.ended = false) :
    editor.begunLabel? raw = plannedLabel?
      ((EditorM.plan (CommandLine.scan (withoutLineEnd raw))).runOn (editor.dispatching raw)).1 := by
  obtain ⟨kept, buffer, -⟩ := editor.steady_dispatching raw
  rw [EditorM.plan_alike (withoutLineEnd raw) editor (editor.dispatching raw) buffer
    (editor.session_dispatching raw) kept.platform kept.registry, begunLabel?,
    if_pos ⟨goesOn, ready.mode⟩]

end Dispatching

end Editor

namespace EditorM

open Editor (Told)

variable {editor : Editor}

/-- **A submitted command line leaves the transaction that it begins**, which is committed if the
line is completed and rolled back if it is not. -/
theorem ensures_submit_leaves (ready : editor.CommandReady) (goesOn : editor.session.ended = false)
    (raw : String) :
    (submit raw).Ensures editor
      (fun output after => ∃ stays, editor.Leaves (editor.begunLabel? raw) stays
        (editor.completes (.ok output)) after)
      (fun fault after => ∃ stays, editor.Leaves (editor.begunLabel? raw) stays
        (editor.completes (.error fault)) after) := by
  rw [ensures_submit goesOn (ready.modes.active_command ready.mode)]
  refine Ensures.answered ?_
  rw [ensures_span, handleLine, handleCommand, ensures_bind, ensures_emit, ensures_span,
    ensures_restoringSearch, Editor.begunLabel?_eq raw ready goesOn]
  have quiet := editor.quiet_dispatching raw
  have steady := editor.steady_dispatching raw
  have session := editor.session_dispatching raw
  have awaiting := Editor.awaiting_dispatching raw ready
  refine ((ensures_dispatch (withoutLineEnd raw) awaiting).and
    (ensures_dispatch_leaves (withoutLineEnd raw) awaiting)).mono ?_ ?_
  · rintro reply inner ⟨completes, leaves⟩
    have same := Editor.Sought.refl (editor.dispatching raw)
    refine (ensures_conclude_leaves (steady.kept.modes.trans ready.modes) (session ▸ ready.mode)
      (same.completes_inner _ (same.completes_inner _ completes))
      (((leaves.behind quiet).leave _ none).leave _ none)).mono ?_
      (fun _ _ impossible => impossible.elim)
    rintro output after ⟨kind, left⟩
    have completed : editor.completes (.ok output) = true := by
      simp [Editor.completes, goesOn, kind]
    exact ⟨_, completed ▸ left⟩
  · rintro fault inner ⟨-, leaves⟩
    generalize Editor.plannedLabel? _ = begun? at leaves ⊢
    -- A refusal takes the remembered search back, of which the log is not told.
    have restored : editor.Leaves begun? false false (if fault.isRoutine then
        inner.updateSession fun session =>
          { session with lastSearch? := (editor.dispatching raw).session.lastSearch? }
        else inner) := by
      split
      · exact (leaves.behind quiet).onward (.of_same rfl) rfl
      · exact leaves.behind quiet
    have left := fun inside around =>
      (restored.leave inside (some fault)).leave around (some fault)
    refine ⟨?_, fun unforeseen => ⟨false, left _ _⟩⟩
    rintro refusal rfl
    refine (ensures_refused_leaves refusal (left _ _)).mono ?_ (fun _ _ impossible => impossible.elim)
    refine fun reply middle concluded => concluded.mono ?_ (fun _ _ impossible => impossible.elim)
    rintro output after ⟨kind, left⟩
    have failed : editor.completes (.ok output) = false := by
      simp [Editor.completes, kind]
    exact ⟨false, failed ▸ left⟩

/-! ## Text entry -/

/-- The end of a text settles the transaction that was kept open for it. -/
theorem ensures_conclude_settles (modes : editor.BothModes)
    (entering : editor.session.mode = .text) (pending : editor.pending = true)
    {checkpoint : Checkpoint} (opened : editor.buffer.opened? = some checkpoint)
    (outermost : editor.buffer.depth = 0) {reply : Reply} (succeeded : reply.status ≠ "error")
    (goesOn : reply.ended = false) (switch : reply.switchTo? = some Mode.command.name)
    (silent : reply.output = []) :
    (conclude reply).Ensures editor
      (fun _ after => editor.Leaves (some checkpoint.label) false true after)
      (fun _ _ => False) := by
  have registered : editor.modes.get? .command = some .command := by rw [modes]; rfl
  have active := modes.active_text entering
  rw [ensures_conclude_switch switch succeeded goesOn silent,
    ensures_switchMode registered active (by simp [entering])]
  simp only [leaveMode, enterMode, endText, closePending, pending, if_true, ensures_bind,
    ensures_modify, ensures_get, ensures_emit, ensures_pure]
  let closing : Editor := { editor with pending := false }
  have silent : editor.Told Call.IsQuiet closing := .of_same rfl
  have left := Editor.leaves_open silent opened outermost true
  generalize closing.leaveTransaction true = settled at left ⊢
  let noted := settled.updateJournal
    (·.message textLoggerName .debug "text entry closed" [("lines", toString settled.entered)])
  have noting : settled.Told Call.IsQuiet noted :=
    (settled.told_message (by decide) (by decide +kernel) _).mono fun _ ordinary => ordinary.quiet
  refine left.onward (Editor.Stepwise.trans noting
    (Editor.Stepwise.trans (quiet_emit noted (.textEnded settled.entered))
      (quiet_switch _ Mode.command.name))) ?_
  exact congrArg Buffer.opened? (noted.emit_steady _).buffer

/-- **A line that is submitted as text settles the transaction that is open if it ends the text**,
and leaves it open otherwise. -/
theorem ensures_submit_text_leaves (ready : editor.TextReady) {checkpoint : Checkpoint}
    (opened : editor.buffer.opened? = some checkpoint) (outermost : editor.buffer.depth = 0)
    (raw : String) :
    (submit raw).Ensures editor
      (fun _ after => editor.Leaves (some checkpoint.label)
        (decide (withoutLineEnd raw ≠ textEnd)) true after)
      (fun _ _ => False) := by
  have active := ready.modes.active_text ready.mode
  let entered : Editor :=
    { editor with journal := (editor.journal.enter (modeSpan .text)).2 }
  have quiet : editor.Told Call.IsQuiet entered := editor.told_enter (modeSpan .text)
  have inside : entered.TextReady :=
    ⟨ready.modes, ready.mode, ready.pending, ready.opened, ready.start, ready.within, ready.goesOn⟩
  rw [ensures_submit ready.goesOn active, ensures_answeringRefusals, ensures_span, handleLine,
    handleText]
  split
  · rename_i ends
    have silent : finishText.Steps (Told Call.IsQuiet) := told_finishText
    refine (ensures_finishText.and (silent entered)).mono ?_
      (fun _ _ impossible => impossible.1.elim)
    rintro reply inner ⟨⟨rfl, moved, edited, rfl, -⟩, told, -⟩
    have closing : entered.Told Call.IsQuiet _ := Editor.Stepwise.trans told
      (Editor.told_leave _ (editor.journal.enter (modeSpan .text)).1 none)
    have finished : decide (withoutLineEnd raw ≠ textEnd) = false := by simp [ends]
    rw [finished]
    have kept : moved.opened? = some checkpoint := edited.opened.trans opened
    refine Ensures.mono (ensures_conclude_settles ?_ ?_ ?_ kept ?_ (by decide) rfl rfl rfl) ?_
      (fun _ _ impossible => impossible)
    · exact ready.modes
    · exact ready.mode
    · exact ready.pending
    · exact edited.depth.trans outermost
    · intro output after left
      exact left.behind (Editor.Stepwise.trans quiet closing)
  · rename_i other
    refine (ensures_enterLine inside (withoutLineEnd raw)).mono ?_
      (fun _ _ impossible => impossible.elim)
    rintro reply inner ⟨rfl, -, edited, -, -, -, -, -, -, silent⟩
    have told : editor.Told Call.IsQuiet _ := Editor.Stepwise.trans quiet
      (Editor.Stepwise.trans (Editor.Told.of_same silent)
        (inner.told_leave (editor.journal.enter (modeSpan .text)).1 none))
    have goesOn : decide (withoutLineEnd raw ≠ textEnd) = true := by simp [other]
    rw [goesOn]
    refine (ensures_conclude_silent (by decide) rfl rfl rfl).mono ?_
      (fun _ _ impossible => impossible)
    rintro output after ⟨-, rfl⟩
    exact ⟨told.reports_nil, congrArg _ (edited.opened.trans opened)⟩

end EditorM

end LineEditor

import LineEditor.Proofs.Buffer.Transactions
import LineEditor.Proofs.Editor.OwnCommands

/-!
# How a command line can end

With the editor's own commands, a command line that is not refused is completed
in one of four ways (`Editor.Completes`).  It is consulted; it revises the buffer
in a transaction that is committed at once; it opens text entry and leaves the
transaction open; or it takes the last change back.

A refused line has not happened: the transaction around its command is rolled
back (`EditorM.ensures_invoke`), and the remembered search is restored
(`EditorM.ensures_handleCommand`).
-/

set_option autoImplicit false

namespace LineEditor

namespace Editor

/-- The buffer has been revised in a transaction of its own. -/
structure Committed (before : Editor) (reply : Reply) (after : Editor) : Prop where
  framed : before.Framed after
  buffer : ∃ label count, before.buffer.Committed label count after.buffer
  session : after.session =
    { before.session with
      lastSearch? := after.session.lastSearch?
      lastSubstitution? := after.session.lastSubstitution?
      insertAfter := after.session.insertAfter }
  succeeded : reply.status ≠ "error"
  goesOn : reply.ended = false
  stays : reply.switchTo? = none

/-- Text entry has been opened, and the transaction is kept for it. -/
structure Opened (before : Editor) (reply : Reply) (after : Editor) : Prop where
  framed : before.Framed { after with pending := before.pending }
  pending : after.pending = true
  buffer : ∃ label count, (before.buffer.enter label).Edited count after.buffer
  session : after.session =
    { before.session with
      lastSearch? := after.session.lastSearch?
      lastSubstitution? := after.session.lastSubstitution?
      insertAfter := after.session.insertAfter }
  succeeded : reply.status ≠ "error"
  goesOn : reply.ended = false
  switch : reply.switchTo? = some Mode.text.name
  output : reply.output = []
  start : 0 ≤ after.session.insertAfter
  within : after.session.insertAfter ≤ after.buffer.lineCount

/-- How a line is completed, depending on its letter. -/
inductive Completes (before : Editor) (letter? : Option Char) (reply : Reply) (after : Editor) :
    Prop
  | consulted (other : letter? ≠ some undoLetter) (consulted : before.Consulted reply after)
  | committed (other : letter? ≠ some undoLetter) (committed : before.Committed reply after)
  | opened (other : letter? ≠ some undoLetter) (opened : before.Opened reply after)
  | undone (same : letter? = some undoLetter) (undone : before.Undone reply after)

/-- Leaving a transaction changes the buffer, and tells the log. -/
theorem leaveTransaction_eq (editor : Editor) (succeeded : Bool) :
    ∃ change, editor.leaveTransaction succeeded =
      ({ editor with
          buffer := if succeeded then editor.buffer.commit else editor.buffer.rollback } :
        Editor).updateJournal change := by
  simp only [leaveTransaction]
  split
  · exact ⟨_, rfl⟩
  · exact ⟨id, rfl⟩

section Around

variable {before middle inner : Editor} (sought : before.Sought middle)
  (change : Telemetry.Journal → Telemetry.Journal) {reply : Reply}
include sought

theorem Sought.committed_inner (committed : middle.Committed reply inner) :
    before.Committed reply (inner.updateJournal change) := by
  refine ⟨sought.framed_inner change committed.framed, sought.buffer ▸ committed.buffer, ?_,
    committed.succeeded, committed.goesOn, committed.stays⟩
  have session := committed.session
  obtain ⟨_, _, rfl⟩ := sought
  exact session

theorem Sought.opened_inner (opened : middle.Opened reply inner) :
    before.Opened reply (inner.updateJournal change) := by
  have framed := sought.framed_inner change opened.framed
  have session := opened.session
  have buffer := opened.buffer
  obtain ⟨_, _, rfl⟩ := sought
  exact ⟨framed, opened.pending, buffer, session, opened.succeeded, opened.goesOn, opened.switch,
    opened.output, opened.start, opened.within⟩

theorem Sought.completes_inner {letter? : Option Char}
    (completes : middle.Completes letter? reply inner) :
    before.Completes letter? reply (inner.updateJournal change) := by
  cases completes with
  | consulted other consulted => exact .consulted other (sought.consulted_inner change consulted)
  | committed other committed => exact .committed other (sought.committed_inner change committed)
  | opened other opened => exact .opened other (sought.opened_inner change opened)
  | undone same undone => exact .undone same (sought.undone_inner change undone)

end Around

end Editor

/-- What is said of how a command ends does not depend on the log. -/
theorem CommandSpec.Ends.logged {spec : CommandSpec} {editor inner : Editor} {reply : Reply}
    {journal : Telemetry.Journal} (change : Telemetry.Journal → Telemetry.Journal)
    (ends : spec.Ends { editor with journal } reply inner) :
    spec.Ends editor reply (inner.updateJournal change) := by
  have sought := Editor.Sought.logged editor journal
  rw [CommandSpec.Ends] at ends ⊢
  split at ends
  · rename_i mutates
    rw [if_pos mutates]
    exact sought.revised_inner change ends
  · rename_i keeps
    rw [if_neg keeps]
    split at ends
    · rename_i same
      rw [if_pos same]
      exact sought.undone_inner change ends
    · rename_i other
      rw [if_neg other]
      exact sought.consulted_inner change ends

theorem CommandSpec.Declines.logged {spec : CommandSpec} {editor inner : Editor} {fault : Fault}
    {journal : Telemetry.Journal} (change : Telemetry.Journal → Telemetry.Journal)
    (declines : spec.Declines { editor with journal } fault inner) :
    spec.Declines editor fault (inner.updateJournal change) :=
  ⟨(Editor.Sought.logged editor journal).declined_inner change declines.declined, declines.undo⟩

namespace EditorM

variable {editor : Editor} {spec : CommandSpec} {invocation : Invocation}

theorem ensures_call (own : spec ∈ Registry.ownCommands)
    (opened : spec.mutates = true → editor.buffer.opened?.isSome)
    (fits : invocation.Fits spec.arity editor.buffer.lastLine) :
    (call spec invocation).Ensures editor (spec.Ends editor) (spec.Declines editor) := by
  rw [call, ensures_span]
  refine (ensures_ownHandler own ?_ ?_).mono (fun reply inner ends => ends.logged _)
    (fun fault inner declines => declines.logged _)
  · exact opened
  · exact fits

/-! ## Transactions -/

/-- A command that revises the buffer is committed, or it opens text entry. -/
theorem completes_transaction {label : String} {reply : Reply} {inner : Editor}
    (closed : editor.buffer.Closed) {letter? : Option Char} (other : letter? ≠ some undoLetter)
    (revised : (editor.enterTransaction label).Revised reply inner) :
    editor.Completes letter? reply
      (if opensText reply then { inner with pending := true }
        else inner.leaveTransaction true) := by
  obtain ⟨framed, ⟨count, edited⟩, session, succeeded, goesOn, switch⟩ := revised
  rcases switch with stays | ⟨switch, output, start, within⟩
  · have keeps : opensText reply = false := by
      rw [opensText, stays]
      decide
    obtain ⟨change, left⟩ := inner.leaveTransaction_eq true
    rw [keeps, left]
    refine .committed other ⟨?_, ⟨label, count, edited.committed closed⟩, session, succeeded,
      goesOn, stays⟩
    exact ⟨framed.config, framed.platform, framed.registry, framed.modes, framed.events,
      framed.pending, framed.entered, framed.hosted⟩
  · have opens : opensText reply = true := by
      rw [opensText, switch]
      decide
    rw [opens]
    refine .opened other ⟨?_, rfl, ⟨label, count, edited⟩, session, succeeded, goesOn, switch,
      output, start, within⟩
    exact ⟨framed.config, framed.platform, framed.registry, framed.modes, framed.events, rfl,
      framed.entered, framed.hosted⟩

/-- Rolling back takes back the transaction that was opened. -/
theorem declines_transaction {label : String} {fault : Fault} {inner : Editor}
    (closed : editor.buffer.Closed)
    (declines : spec.Declines (editor.enterTransaction label) fault inner) :
    spec.Declines editor fault (inner.leaveTransaction false) := by
  obtain ⟨⟨framed, buffer, session, notMisuse⟩, undo⟩ := declines
  obtain ⟨change, left⟩ := inner.leaveTransaction_eq false
  have entered : inner.buffer = editor.buffer.enter label := buffer
  have rolledBack : inner.buffer.rollback = editor.buffer := by
    rw [entered]
    exact Buffer.rollback_edited closed (.refl _)
  rw [left]
  refine ⟨⟨?_, rolledBack, session, notMisuse⟩, ?_⟩
  · exact ⟨framed.config, framed.platform, framed.registry, framed.modes, framed.events,
      framed.pending, framed.entered, framed.hosted⟩
  · intro same
    obtain ⟨refused, entries⟩ := undo same
    rw [Editor.enterTransaction, Buffer.enter_closed closed] at entries
    exact ⟨refused, entries⟩

/-- **Invoking a command completes it or leaves the buffer as it was.** -/
theorem ensures_invoke (own : spec ∈ Registry.ownCommands) (closed : editor.buffer.Closed)
    (fits : invocation.Fits spec.arity editor.buffer.lastLine) :
    (invoke spec invocation).Ensures editor (editor.Completes (some spec.letter))
      (spec.Declines editor) := by
  rw [invoke]
  split
  · rename_i mutates
    have other : some spec.letter ≠ some undoLetter := by
      have : ∀ spec ∈ Registry.ownCommands, spec.mutates = true → spec.letter ≠ undoLetter := by
        decide
      simpa using this spec own mutates
    rw [ensures_transaction]
    refine (ensures_call own ?_ ?_).mono ?_
      (fun fault inner declines => declines_transaction closed declines)
    · intro _
      rw [Editor.enterTransaction, Buffer.enter_opened? closed]
      rfl
    · rw [Editor.enterTransaction, Buffer.enter_closed closed]
      exact fits
    · intro reply inner ends
      rw [CommandSpec.ends_mutating mutates] at ends
      exact completes_transaction closed other ends
  · rename_i keeps
    refine (ensures_call own (fun mutates => absurd mutates keeps) fits).mono ?_
      (fun fault inner declines => declines)
    intro reply inner ends
    rw [CommandSpec.Ends, if_neg keeps] at ends
    split at ends
    · rename_i same
      exact .undone (congrArg some same) ends
    · rename_i other
      exact .consulted (by simpa using other) ends

/-! ## Dispatching -/

/-- The line to go to is one that can be addressed. -/
theorem navigationTarget_within {buffer : Buffer} {line : CommandLine} {first? last? : Option Nat}
    (checked : CheckedLines buffer.lastLine first? last?) {target : Nat}
    (found : navigationTarget buffer line first? last? = .ok target) :
    1 ≤ target ∧ target ≤ buffer.lastLine := by
  unfold navigationTarget at found
  split at found
  · cases found
    exact checked.last _ rfl
  · cases found
    exact checked.first _ rfl
  · split at found
    · cases found
    · split at found
      · cases found
      · cases found
        simp only [Buffer.lastLine]
        omega

theorem plain_navigationTarget (buffer : Buffer) (line : CommandLine) (first? last? : Option Nat) :
    PlainOutcome (navigationTarget buffer line first? last?) := by
  unfold navigationTarget
  split
  · exact .ok _
  · exact .ok _
  · split
    · exact .refused (by decide)
    · split
      · exact .refused (by decide)
      · exact .ok _

/-- Going to lines that have been checked succeeds, unless there is no line to go to. -/
theorem ensures_navigate (line : CommandLine) {first? last? : Option Nat}
    (checked : CheckedLines editor.buffer.lastLine first? last?) :
    (navigate line first? last?).Ensures editor editor.Consulted
      (fun fault after => after = editor ∧ fault.IsPlain) := by
  simp only [navigate, ensures_bind, ensures_get, ensures_lift]
  refine ⟨fun target found => ?_, fun fault failed => ⟨trivial, ?_⟩⟩
  · obtain ⟨first, within⟩ := navigationTarget_within checked found
    have moved := editor.buffer.setCurrent_placed first within
    rw [setCurrent, ensures_modifyBuffer_ok moved]
    obtain ⟨lines, readable⟩ := Buffer.readRange_addressed
      ({ editor.buffer with current := target } : Buffer) first (Nat.le_refl target) within
    simp only [ensures_pure, readable]
    refine ⟨fun _ _ => .visit first within (by simp) rfl, fun fault failed => by cases failed⟩
  · exact plain_navigationTarget _ _ _ _ fault failed

end EditorM

namespace Editor

/-- How a line is declined: a line to undo only if there is nothing to undo, or if its addresses
are not accepted. -/
structure DeclinesLine (before : Editor) (line : CommandLine) (fault : Fault) (after : Editor) :
    Prop where
  declined : before.Declined fault after
  undo : line.letter? = some undoLetter →
    fault = .refusal .nothingToUndo ∧ before.buffer.history.entries = [] ∨ ¬before.Accepts line

/-- The editor awaits a command: it has its own commands, its current line can be addressed, and no
transaction is open. -/
structure Awaiting (editor : Editor) : Prop where
  registry : editor.registry = Registry.own
  placed : editor.buffer.Placed
  closed : editor.buffer.Closed

theorem Sought.awaiting {before after : Editor} (sought : before.Sought after)
    (awaiting : before.Awaiting) : after.Awaiting where
  registry := sought.registry.trans awaiting.registry
  placed := sought.buffer ▸ awaiting.placed
  closed := sought.buffer ▸ awaiting.closed

/-- Telling the host adds an event, and perhaps something to the log. -/
theorem emit_eq (editor : Editor) (event : Event) :
    ∃ journal, editor.emit event =
      { editor with events := editor.events.push event, journal } := by
  simp only [emit]
  split
  · exact ⟨_, rfl⟩
  · exact ⟨_, rfl⟩

@[simp] theorem emit_session (editor : Editor) (event : Event) :
    (editor.emit event).session = editor.session := by
  obtain ⟨_, told⟩ := editor.emit_eq event
  rw [told]

theorem Awaiting.emit {editor : Editor} (awaiting : editor.Awaiting) (event : Event) :
    (editor.emit event).Awaiting := by
  obtain ⟨_, told⟩ := editor.emit_eq event
  rw [told]
  exact ⟨awaiting.registry, awaiting.placed, awaiting.closed⟩

/-- A declined line may have the remembered search restored. -/
theorem DeclinesLine.restored {editor inner : Editor} {line : CommandLine} {fault : Fault}
    (declines : editor.DeclinesLine line fault inner) (lastSearch? : Option String) :
    editor.DeclinesLine line fault
      (inner.updateSession fun session => { session with lastSearch? }) := by
  obtain ⟨⟨framed, buffer, session, notMisuse⟩, undo⟩ := declines
  refine ⟨⟨?_, buffer, ?_, notMisuse⟩, undo⟩
  · exact framed.trans (.inside ..)
  · rw [updateSession_session, session]

theorem DeclinesLine.logged {editor inner : Editor} {line : CommandLine} {fault : Fault}
    {journal : Telemetry.Journal} (change : Telemetry.Journal → Telemetry.Journal)
    (declines : DeclinesLine { editor with journal } line fault inner) :
    editor.DeclinesLine line fault (inner.updateJournal change) := by
  refine ⟨(Sought.logged editor journal).declined_inner change declines.declined, ?_⟩
  intro letter
  have accepts : Accepts { editor with journal } line ↔ editor.Accepts line :=
    accepts_congr line rfl rfl rfl
  rw [← accepts]
  exact declines.undo letter

/-- The letter to undo is bound to a command that reads no addresses. -/
theorem Awaiting.ignores {editor : Editor} (awaiting : editor.Awaiting) {line : CommandLine}
    (letter : line.letter? = some undoLetter) : editor.Ignores line := by
  refine ⟨Registry.ownCommand undoLetter .undo .ignored false "Undo last change", ?_, rfl⟩
  rw [letter, awaiting.registry]
  decide

end Editor

namespace EditorM

variable {editor : Editor}

/-- **A command line is completed, or it leaves the buffer as it was.** -/
theorem ensures_dispatch (text : String) (awaiting : editor.Awaiting) :
    (dispatch (CommandLine.scan text)).Ensures editor
      (editor.Completes (CommandLine.scan text).letter?)
      (editor.DeclinesLine (CommandLine.scan text)) := by
  rw [dispatch_eq, ensures_bind]
  refine (ensures_plan text awaiting.placed).mono ?_ (fun fault after failed =>
    ⟨failed.1.declined failed.2.1, fun letter => .inr (failed.2.2 (awaiting.ignores letter))⟩)
  rintro request middle ⟨sought, fits⟩
  have awaiting' := sought.awaiting awaiting
  cases request with
  | visit first? last? =>
      obtain ⟨unbound, checked⟩ := fits
      have other : (CommandLine.scan text).letter? ≠ some undoLetter := by
        intro letter
        obtain ⟨spec, found, -⟩ := awaiting'.ignores letter
        rw [unbound] at found
        cases found
      refine (ensures_navigate _ checked).mono
        (fun reply after consulted => .consulted other (sought.consulted_inner id consulted)) ?_
      rintro fault after ⟨same, plain⟩
      subst same
      exact ⟨sought.declined plain, fun letter => absurd letter other⟩
  | invoke spec invocation =>
      obtain ⟨found, fits⟩ := fits
      rw [awaiting'.registry] at found
      obtain ⟨letter, isLetter, isBound⟩ := Option.bind_eq_some_iff.mp found
      obtain ⟨own, rfl⟩ := Registry.find?_own isBound
      rw [isLetter]
      refine (ensures_invoke own awaiting'.closed fits).mono
        (fun reply after completes => sought.completes_inner id completes) ?_
      intro fault after declines
      refine ⟨sought.declined_inner id declines.declined, ?_⟩
      intro same
      have undone := declines.undo (Option.some.inj (isLetter.symm.trans same))
      rw [sought.buffer] at undone
      exact .inl undone

/-- The answer to a submitted command line, before it is concluded.  A refusal takes the remembered
search back. -/
theorem ensures_handleCommand (text : String) (awaiting : editor.Awaiting) :
    (handleCommand text).Ensures editor
      ((editor.emit (.commandSubmitted text)).Completes (CommandLine.scan text).letter?)
      (fun fault after =>
        (editor.emit (.commandSubmitted text)).DeclinesLine (CommandLine.scan text) fault after ∧
          (fault.isRoutine → after.session.lastSearch? = editor.session.lastSearch?)) := by
  simp only [handleCommand, ensures_bind, ensures_emit, ensures_span, ensures_restoringSearch]
  have told := awaiting.emit (.commandSubmitted text)
  have session : (editor.emit (.commandSubmitted text)).session = editor.session :=
    editor.emit_session _
  revert told session
  generalize editor.emit (.commandSubmitted text) = started
  intro told session
  have sought := Editor.Sought.logged started
    (started.journal.enter (dispatchSpan (CommandLine.scan text))).2
  refine (ensures_dispatch text (sought.awaiting told)).mono
    (fun reply inner completes => sought.completes_inner _ completes) ?_
  intro fault inner declines
  split
  · refine ⟨(declines.restored _).logged _, ?_⟩
    intro _
    rw [← session]
    rfl
  · rename_i unforeseen
    exact ⟨declines.logged _, fun routine => absurd routine unforeseen⟩

end EditorM

end LineEditor

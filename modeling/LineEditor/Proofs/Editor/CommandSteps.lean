import LineEditor.Proofs.Editor.Concluding

/-!
# Submitting a line as a command

`Editor.CommandStep` lists all that a submitted line can do to an editor that
awaits a command, with the answer to it.  The line is refused and nothing has
happened but what a refusal records; a fault escapes and the buffer is as it
was; or the line is completed, which revises the buffer by one committed
transaction, opens text entry, takes the last change back, or leaves document
and history alone.

`EditorM.ensures_submit_command` says that there is nothing else.
-/

set_option autoImplicit false

namespace LineEditor

namespace Editor

/-- The editor is in the command mode and ready for a line. -/
structure CommandReady (editor : Editor) : Prop extends editor.Awaiting where
  modes : editor.BothModes
  mode : editor.session.mode = .command
  pending : editor.pending = false

/-- What a line can do that is submitted as a command, with its answer. -/
inductive CommandStep (before : Editor) (text : String) : Except Fault Output → Editor → Prop
  | refused {refusal : Refusal} {output : Output} {after : Editor} (steady : before.Steady after)
      (session : after.session =
        { before.session with
          lastError := refusal.message
          quitState := before.quitStateAfter (.refusal refusal) })
      (events : after.events =
        (before.events.push (.commandSubmitted text)).push (.commandRefused refusal))
      (failed : output.kind = .error)
      (undo : (CommandLine.scan text).letter? = some undoLetter →
        refusal = .nothingToUndo ∧ before.buffer.history.entries = [] ∨
          ¬before.Accepts (CommandLine.scan text)) :
      CommandStep before text (.ok output) after
  | escaped {fault : Fault} {after : Editor} (steady : before.Steady after)
      (session : after.session =
        { before.session with lastSearch? := after.session.lastSearch? })
      (unforeseen : fault.isRoutine = false) (notMisuse : ¬fault.IsMisuse)
      (undo : (CommandLine.scan text).letter? = some undoLetter →
        ¬before.Accepts (CommandLine.scan text)) :
      CommandStep before text (.error fault) after
  | consulted {output : Output} {after : Editor} (kept : before.Kept after)
      (other : (CommandLine.scan text).letter? ≠ some undoLetter)
      (buffer : before.buffer.SameText after.buffer) (pending : after.pending = before.pending)
      (session : after.session =
        { before.session with
          lastSearch? := after.session.lastSearch?
          verboseErrors := after.session.verboseErrors
          promptVisible := after.session.promptVisible
          marks := after.session.marks
          quitState := after.session.quitState
          ended := after.session.ended })
      (succeeded : output.kind ≠ .error) :
      CommandStep before text (.ok output) after
  | committed {output : Output} {after : Editor} (kept : before.Kept after)
      (other : (CommandLine.scan text).letter? ≠ some undoLetter)
      (buffer : ∃ label count, before.buffer.Committed label count after.buffer)
      (pending : after.pending = before.pending)
      (session : after.session =
        { before.session with
          lastSearch? := after.session.lastSearch?
          lastSubstitution? := after.session.lastSubstitution?
          insertAfter := after.session.insertAfter })
      (succeeded : output.kind ≠ .error) :
      CommandStep before text (.ok output) after
  | opened {after : Editor} (kept : before.Kept after)
      (other : (CommandLine.scan text).letter? ≠ some undoLetter)
      (buffer : ∃ label count, (before.buffer.enter label).Edited count after.buffer)
      (pending : after.pending = true)
      (session : after.session =
        { before.session with
          mode := .text
          lastSearch? := after.session.lastSearch?
          lastSubstitution? := after.session.lastSubstitution?
          insertAfter := after.session.insertAfter })
      (start : 0 ≤ after.session.insertAfter)
      (within : after.session.insertAfter ≤ after.buffer.lineCount) :
      CommandStep before text (.ok { kind := .none }) after
  | undone {after : Editor} (kept : before.Kept after)
      (same : (CommandLine.scan text).letter? = some undoLetter)
      (buffer : before.buffer.undo? = some after.buffer) (pending : after.pending = before.pending)
      (session : after.session =
        { before.session with lastSearch? := after.session.lastSearch? }) :
      CommandStep before text (.ok { kind := .none }) after

end Editor

namespace EditorM

variable {editor : Editor} {text : String}

/-- Concluding a completed line. -/
theorem ensures_conclude_completes {started inner : Editor} {reply : Reply}
    (ready : editor.CommandReady) (steady : editor.Steady started)
    (session : started.session = editor.session)
    (completes : started.Completes (CommandLine.scan text).letter? reply inner) :
    (conclude reply).Ensures inner
      (fun output after => editor.CommandStep text (.ok output) after) (fun _ _ => False) := by
  cases completes with
  | consulted other consulted =>
      obtain ⟨framed, buffer, sessionInner, succeeded, stays⟩ := consulted
      rw [session] at sessionInner
      refine (ensures_conclude_stays succeeded stays).mono ?_ (fun _ _ impossible => impossible)
      rintro output after ⟨succeeded, steadyAfter, sessionAfter⟩
      refine .consulted ((steady.kept.trans framed.kept).trans steadyAfter.kept) other ?_ ?_ ?_
        succeeded
      · rwa [steadyAfter.buffer, ← steady.buffer]
      · rw [steadyAfter.pending, framed.pending, steady.pending]
      · rw [sessionAfter]
        exact congrArg
          (fun session : Session => { session with ended := inner.session.ended || reply.ended })
          sessionInner
  | committed other committed =>
      obtain ⟨framed, buffer, sessionInner, succeeded, goesOn, stays⟩ := committed
      rw [session] at sessionInner
      refine (ensures_conclude_stays succeeded stays).mono ?_ (fun _ _ impossible => impossible)
      rintro output after ⟨succeeded, steadyAfter, sessionAfter⟩
      rw [goesOn, Bool.or_false] at sessionAfter
      refine .committed ((steady.kept.trans framed.kept).trans steadyAfter.kept) other ?_ ?_ ?_
        succeeded
      · rwa [steadyAfter.buffer, ← steady.buffer]
      · rw [steadyAfter.pending, framed.pending, steady.pending]
      · rw [sessionAfter]
        exact sessionInner
  | opened other opened =>
      obtain ⟨framed, pending, buffer, sessionInner, succeeded, goesOn, switch, output, start,
        within⟩ := opened
      rw [session] at sessionInner
      have modes : inner.BothModes := framed.modes.trans (steady.kept.modes.trans ready.modes)
      have mode : inner.session.mode = .command := by
        rw [sessionInner]
        exact ready.mode
      refine (ensures_conclude_text modes mode succeeded goesOn switch output).mono ?_
        (fun _ _ impossible => impossible)
      rintro output after ⟨silent, steadyAfter, sessionAfter, -⟩
      subst silent
      have keptInner : editor.Kept inner := steady.kept.trans
        ⟨framed.config, framed.platform, framed.registry, framed.modes, framed.hosted⟩
      refine .opened (keptInner.trans steadyAfter.kept) other ?_ ?_ ?_ ?_ ?_
      · rwa [steadyAfter.buffer, ← steady.buffer]
      · rw [steadyAfter.pending, pending]
      · rw [sessionAfter]
        exact congrArg (fun session : Session => { session with mode := .text }) sessionInner
      · rw [sessionAfter]
        exact start
      · rw [sessionAfter, steadyAfter.buffer]
        exact within
  | undone same undone =>
      obtain ⟨framed, buffer, sessionInner, reply⟩ := undone
      subst reply
      rw [session] at sessionInner
      refine (ensures_conclude_silent (by decide) rfl rfl rfl).mono ?_
        (fun _ _ impossible => impossible)
      rintro output after ⟨silent, unchanged⟩
      subst silent unchanged
      refine .undone (steady.kept.trans framed.kept) same ?_ ?_ sessionInner
      · rwa [← steady.buffer]
      · rw [framed.pending, steady.pending]

section Declined

variable {started inner : Editor} (steady : editor.Steady started)
  (session : started.session = editor.session)
include steady session

/-- A refused line is answered with an error, and then it has not happened. -/
theorem ensures_answer_refused {refusal : Refusal}
    (events : started.events = editor.events.push (.commandSubmitted text))
    (declines : started.DeclinesLine (CommandLine.scan text) (.refusal refusal) inner)
    (restored : inner.session.lastSearch? = editor.session.lastSearch?) :
    (answerRefusal refusal).Ensures inner
      (fun reply middle => (conclude reply).Ensures middle
        (fun output after => editor.CommandStep text (.ok output) after) (fun _ _ => False))
      (fun _ _ => False) := by
  obtain ⟨⟨framed, buffer, sessionInner, -⟩, undo⟩ := declines
  have steadyInner : editor.Steady inner := ⟨steady.kept.trans framed.kept,
    buffer.trans steady.buffer, framed.pending.trans steady.pending⟩
  refine (ensures_answerRefusal refusal).mono ?_ (fun _ _ impossible => impossible)
  rintro reply middle ⟨⟨failed, stays, goesOn⟩, steadyMiddle, sessionMiddle, eventsMiddle⟩
  refine (ensures_conclude_error failed stays goesOn).mono ?_ (fun _ _ impossible => impossible)
  rintro output after ⟨kind, unchanged⟩
  subst unchanged
  have recorded : after.session =
      { editor.session with
        lastError := refusal.message
        quitState := editor.quitStateAfter (.refusal refusal) } := by
    rw [sessionMiddle, sessionInner, restored, session]
    simp only [Editor.quitStateAfter, session]
  refine .refused (steadyInner.trans steadyMiddle) recorded ?_ kind ?_
  · rw [eventsMiddle, framed.events, events]
  · intro letter
    rw [← steady.buffer, ← Editor.accepts_congr _ steady.buffer session steady.kept.platform]
    rcases undo letter with ⟨same, entries⟩ | unaccepted
    · exact .inl ⟨by injection same, entries⟩
    · exact .inr unaccepted

/-- Any other fault escapes, and leaves the buffer as it was. -/
theorem step_escaped {fault : Fault} (unforeseen : fault.isRoutine = false)
    (declines : started.DeclinesLine (CommandLine.scan text) fault inner) :
    editor.CommandStep text (.error fault) inner := by
  obtain ⟨⟨framed, buffer, sessionInner, notMisuse⟩, undo⟩ := declines
  have other : ∀ refusal, fault ≠ .refusal refusal := by
    intro refusal same
    rw [same] at unforeseen
    cases unforeseen
  refine .escaped ⟨steady.kept.trans framed.kept, buffer.trans steady.buffer,
    framed.pending.trans steady.pending⟩ ?_ unforeseen notMisuse ?_
  · rw [Editor.quitStateAfter, if_neg (other _), session] at sessionInner
    exact sessionInner
  · intro letter
    rw [← Editor.accepts_congr _ steady.buffer session steady.kept.platform]
    rcases undo letter with ⟨same, -⟩ | unaccepted
    · exact absurd same (other _)
    · exact unaccepted

end Declined

/-- **What a line can do that is submitted as a command.** -/
theorem ensures_submit_command (ready : editor.CommandReady) (goesOn : editor.session.ended = false)
    (raw : String) :
    (submit raw).Ensures editor
      (fun output after => editor.CommandStep (withoutLineEnd raw) (.ok output) after)
      (fun fault after => editor.CommandStep (withoutLineEnd raw) (.error fault) after) := by
  have active := ready.modes.active_command ready.mode
  rw [ensures_submit goesOn active, ensures_answeringRefusals, ensures_span, handleLine]
  let entered : Editor :=
    { editor with journal := (editor.journal.enter (modeSpan .command)).2 }
  let started := entered.emit (.commandSubmitted (withoutLineEnd raw))
  have steady : editor.Steady started :=
    (Editor.Steady.inside editor ..).trans (entered.emit_steady _)
  have session : started.session = editor.session := entered.emit_session _
  have events : started.events = editor.events.push (.commandSubmitted (withoutLineEnd raw)) :=
    entered.emit_events _
  have awaiting : entered.Awaiting := ⟨ready.registry, ready.placed, ready.closed⟩
  refine (ensures_handleCommand (withoutLineEnd raw) awaiting).mono ?_ ?_
  · intro reply inner completes
    exact (ensures_conclude_completes ready steady session
      ((Editor.Sought.refl started).completes_inner _ completes)).mono
      (fun _ _ step => step) (fun _ _ impossible => impossible.elim)
  · rintro fault inner ⟨declines, restored⟩
    have declined := (Editor.Sought.refl started).declined_inner
      (·.leave (editor.journal.enter (modeSpan .command)).1 (some fault)) declines.declined
    have declines : started.DeclinesLine _ fault _ := ⟨declined, declines.undo⟩
    cases fault with
    | refusal refusal =>
        exact (ensures_answer_refused steady session events declines (restored rfl)).mono
          (fun reply middle ensured => ensured.mono (fun _ _ step => step)
            (fun _ _ impossible => impossible.elim))
          (fun _ _ impossible => impossible.elim)
    | _ => exact step_escaped steady session rfl declines

end EditorM

end LineEditor

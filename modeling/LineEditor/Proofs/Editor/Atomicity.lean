import LineEditor.Proofs.Editor.Reachable

/-!
# Failed lines

A command line that fails has not happened.  A line that is answered with an
error leaves the buffer as a whole as it was, and of the session it changes the
last error, and the state of quitting if the error is the warning about unsaved
changes.  A fault that escapes leaves the buffer as it was, with no transaction
open (`Editor.failed_line_unchanged`).

The part of the session that a line may have changed before it failed is the
remembered search, which a refusal takes back (`EditorM.ensures_handleCommand`).
-/

set_option autoImplicit false

namespace LineEditor.Editor

variable {editor : Editor}

/-- **A failed command line is atomic.**  Whatever lines have been submitted before, if the next one
is answered with an error, then the buffer is the same as before, and so is the session but for the
message of the last error; the state of quitting changes only with the warning about unsaved
changes.  The refusal in question is the one of which the host is told.  If a fault escapes, the
buffer is the same as before, and no transaction is left open. -/
theorem failed_line_unchanged (reachable : editor.Reachable)
    (awaiting : editor.session.mode = .command) (raw : String) :
    (∀ output, editor.answer raw = .ok output → output.kind = .error →
      (editor.next raw).buffer = editor.buffer ∧
      ∃ refusal,
        (editor.next raw).events =
          (editor.events.push (.commandSubmitted (withoutLineEnd raw))).push
            (.commandRefused refusal) ∧
        (editor.next raw).session =
          { editor.session with
            lastError := refusal.message
            quitState :=
              if refusal = .unsavedChanges then .refusedOnce else editor.session.quitState }) ∧
    ∀ fault, editor.answer raw = .error fault →
      (editor.next raw).buffer = editor.buffer ∧ (editor.next raw).buffer.opened? = none ∧
      (editor.next raw).pending = false := by
  have ready := reachable.sound.commandReady awaiting
  cases ended : editor.session.ended with
  | true =>
      obtain ⟨answer, -⟩ := submit_ended ended raw
      constructor
      · intro output same failed
        rw [answer] at same
        cases same
        cases failed
      · intro fault same
        rw [answer] at same
        cases same
  | false =>
      have step := ready.step ended raw
      revert step
      generalize editor.answer raw = outcome
      generalize editor.next raw = after
      intro step
      constructor
      · intro output same failed
        subst same
        cases step with
        | refused steady session events =>
            refine ⟨steady.buffer, _, events, ?_⟩
            rw [session]
            simp only [quitStateAfter, Fault.refusal.injEq]
        | consulted kept other buffer pending session succeeded => exact absurd failed succeeded
        | committed kept other buffer pending session succeeded => exact absurd failed succeeded
        | opened => cases failed
        | undone => cases failed
      · intro fault same
        subst same
        cases step with
        | escaped steady session unforeseen notMisuse undo =>
            refine ⟨steady.buffer, ?_, steady.pending.trans ready.pending⟩
            rw [steady.buffer]
            exact ready.closed.opened

/-- A line that finds a line by a search and is refused because the lines are not in order: the
search is not remembered. -/
theorem failed_line_unchanged_search :
    ((ofText "one\ntwo").run ["1s/one/uno/"]).Reachable ∧
      ((ofText "one\ntwo").run ["1s/one/uno/"]).session.mode = .command ∧
      ((ofText "one\ntwo").run ["1s/one/uno/"]).answer "/two/,1d" =
        .ok { kind := .error, lines := ["?"] } ∧
      (((ofText "one\ntwo").run ["1s/one/uno/"]).next "/two/,1d").buffer =
        ((ofText "one\ntwo").run ["1s/one/uno/"]).buffer ∧
      (((ofText "one\ntwo").run ["1s/one/uno/"]).next "/two/,1d").session.lastSearch? =
        some "one" := by
  have reachable := (reachable_ofText "one\ntwo").run ["1s/one/uno/"]
  have awaiting : ((ofText "one\ntwo").run ["1s/one/uno/"]).session.mode = .command := by
    decide +kernel
  have before : ((ofText "one\ntwo").run ["1s/one/uno/"]).session.lastSearch? = some "one" := by
    decide +kernel
  have answer : ((ofText "one\ntwo").run ["1s/one/uno/"]).answer "/two/,1d" =
      .ok { kind := .error, lines := ["?"] } :=
    eq_ok_of_toOption (by decide +kernel)
  obtain ⟨buffer, refusal, events, session⟩ :=
    (failed_line_unchanged reachable awaiting "/two/,1d").1 _ answer rfl
  refine ⟨reachable, awaiting, answer, buffer, ?_⟩
  simp only [session, before]

end LineEditor.Editor

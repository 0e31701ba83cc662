import LineEditor.Proofs.Buffer.Composition
import LineEditor.Proofs.Editor.Concluding

/-!
# Submitting a line as text

In the text mode a line is inserted behind the one before, or it ends the text
(`Editor.TextStep`).  Neither can fail as long as the place for the text is a
place in the document, and every line inserted moves that place along
(`EditorM.ensures_submit_text`).
-/

set_option autoImplicit false

namespace LineEditor

namespace Editor

/-- The editor is in the text mode and ready for a line: the transaction is open, and the place for
the text is one in the document. -/
structure TextReady (editor : Editor) : Prop where
  modes : editor.BothModes
  mode : editor.session.mode = .text
  pending : editor.pending = true
  opened : editor.buffer.opened?.isSome
  start : 0 ≤ editor.session.insertAfter
  within : editor.session.insertAfter ≤ editor.buffer.lineCount
  goesOn : editor.session.ended = false

/-- The lines with one more line at the place for the text. -/
def linesWith (editor : Editor) (line : String) : List String :=
  editor.buffer.lines.take editor.session.insertAfter.toNat ++ [line] ++
    editor.buffer.lines.drop editor.session.insertAfter.toNat

/-- What a line does that is submitted as text. -/
inductive TextStep (before : Editor) (text : String) (after : Editor) : Prop
  | entered (other : text ≠ EditorM.textEnd) (kept : before.Kept after)
      (buffer : before.buffer.Edited 1 after.buffer)
      (lines : after.buffer.lines = before.linesWith text)
      (pending : after.pending = before.pending)
      (session : after.session =
        { before.session with insertAfter := before.session.insertAfter + 1 })
      (within : after.session.insertAfter ≤ after.buffer.lineCount)
      (events : after.events = before.events) (count : after.entered = before.entered + 1)
  | closed (ends : text = EditorM.textEnd) (kept : before.Kept after) {moved : Buffer}
      (buffer : before.buffer.Edited 0 moved) (committed : after.buffer = moved.commit)
      (pending : after.pending = false)
      (session : after.session = { before.session with mode := .command })
      (current : (moved.current : Int) =
        max 1 (min before.session.insertAfter before.buffer.lineCount))
      (events : after.events = before.events.push (.textEnded before.entered))

/-- After a line of the text, the editor is ready for the next one. -/
theorem TextStep.ready {before after : Editor} {text : String} (ready : before.TextReady)
    (other : text ≠ EditorM.textEnd) (step : before.TextStep text after) :
    after.TextReady ∧ after.buffer.lines = before.linesWith text ∧
      after.session.insertAfter = before.session.insertAfter + 1 ∧
      before.buffer.Edited 1 after.buffer := by
  cases step with
  | closed ends => exact absurd ends other
  | entered other kept buffer lines pending session within =>
      have start := ready.start
      have place : after.session.insertAfter = before.session.insertAfter + 1 := by rw [session]
      refine ⟨⟨kept.modes.trans ready.modes, ?_, pending.trans ready.pending, ?_, ?_, within, ?_⟩,
        lines, place, buffer⟩
      · rw [session]
        exact ready.mode
      · rw [buffer.opened]
        exact ready.opened
      · omega
      · rw [session]
        exact ready.goesOn

end Editor

namespace EditorM

variable {editor : Editor}

/-- An edit inside a transaction tells the log nothing. -/
theorem ensures_insertLines {buffer : Buffer} (opened : editor.buffer.opened?.isSome) {after : Int}
    {lines : List String} (success : editor.buffer.insertLines after lines = .ok buffer)
    {onResult : Unit → Editor → Prop} {onFault : Fault → Editor → Prop} :
    (insertLines after lines).Ensures editor onResult onFault ↔
      onResult () { editor with buffer } := by
  simp only [insertLines, editBuffer, ensures_bind, ensures_get, opened, Bool.not_true,
    Bool.and_false, Bool.false_eq_true, if_false, ensures_pure]
  exact ensures_modifyBuffer_ok success

/-- A line of the text is inserted, and it becomes the current line; the log is told nothing. -/
theorem ensures_enterLine (ready : editor.TextReady) (line : String) :
    (enterLine line).Ensures editor
      (fun reply after => reply = { status := "insert_line" } ∧ editor.Kept after ∧
        editor.buffer.Edited 1 after.buffer ∧ after.buffer.lines = editor.linesWith line ∧
        after.pending = editor.pending ∧
        after.session = { editor.session with insertAfter := editor.session.insertAfter + 1 } ∧
        after.session.insertAfter ≤ after.buffer.lineCount ∧
        after.events = editor.events ∧ after.entered = editor.entered + 1 ∧
        after.journal = editor.journal)
      (fun _ _ => False) := by
  have start := ready.start
  have within := ready.within
  have place : editor.session.insertAfter = (editor.session.insertAfter.toNat : Int) := by omega
  obtain ⟨inserted, success, edited, lines, count⟩ := Buffer.insertLines_within ready.opened
    (show editor.session.insertAfter.toNat ≤ editor.buffer.lineCount by omega) [line]
  rw [List.length_singleton] at count
  have room : editor.session.insertAfter.toNat + 1 ≤ inserted.lastLine := by
    simp only [Buffer.lastLine, count]
    omega
  have next : editor.session.insertAfter + 1 =
      ((editor.session.insertAfter.toNat + 1 : Nat) : Int) := by omega
  have moved := inserted.setCurrent_placed (by omega) room
  rw [← place] at success
  rw [← next] at moved
  simp only [enterLine, ensures_bind, ensures_get]
  rw [ensures_insertLines ready.opened success]
  simp only [ensures_modifySession, ensures_modify, setCurrent]
  rw [ensures_modifyBuffer_ok moved, ensures_pure]
  refine ⟨rfl, .inside .., edited.trans (inserted.edited_current (by omega) room), lines, rfl, rfl,
    ?_, rfl, rfl, rfl⟩
  show editor.session.insertAfter + 1 ≤ inserted.lineCount
  omega

/-- The last line entered becomes the current one. -/
theorem ensures_finishText :
    finishText.Ensures editor
      (fun reply after => reply =
          { status := "insert_end", switchTo? := some Mode.command.name } ∧
        ∃ moved, editor.buffer.Edited 0 moved ∧ after = { editor with buffer := moved } ∧
          (moved.current : Int) = max 1 (min editor.session.insertAfter editor.buffer.lineCount))
      (fun _ _ => False) := by
  let line := (max 1 (min editor.session.insertAfter editor.buffer.lineCount)).toNat
  have target : max 1 (min editor.session.insertAfter editor.buffer.lineCount) = (line : Int) := by
    omega
  have room : 1 ≤ line ∧ line ≤ editor.buffer.lastLine := by
    simp only [Buffer.lastLine]
    omega
  have moved := editor.buffer.setCurrent_placed room.1 room.2
  simp only [finishText, ensures_bind, ensures_get, target, setCurrent]
  rw [ensures_modifyBuffer_ok moved, ensures_pure]
  exact ⟨rfl, _, editor.buffer.edited_current room.1 room.2, rfl, rfl⟩

/-- **A line that is submitted as text is inserted or ends the text; it never fails.** -/
theorem ensures_submit_text (ready : editor.TextReady) (raw : String) :
    (submit raw).Ensures editor
      (fun output after => output = { kind := .none } ∧ editor.TextStep (withoutLineEnd raw) after)
      (fun _ _ => False) := by
  have active := ready.modes.active_text ready.mode
  let entered : Editor :=
    { editor with journal := (editor.journal.enter (modeSpan .text)).2 }
  have inside : entered.TextReady :=
    ⟨ready.modes, ready.mode, ready.pending, ready.opened, ready.start, ready.within, ready.goesOn⟩
  rw [ensures_submit ready.goesOn active, ensures_answeringRefusals, ensures_span, handleLine,
    handleText]
  split
  · rename_i ends
    refine ensures_finishText.mono ?_ (fun _ _ impossible => impossible.elim)
    rintro reply inner ⟨isReply, moved, edited, isInner, current⟩
    subst isReply isInner
    refine Ensures.mono (ensures_conclude_command ?_ ?_ ?_ ?_ rfl rfl rfl) ?_
      (fun _ _ impossible => impossible)
    · exact ready.modes
    · exact ready.mode
    · exact ready.pending
    · exact by decide
    · rintro output after ⟨silent, kept, committed, pending, session, events⟩
      exact ⟨silent, .closed ends (.trans (.inside editor ..) kept) edited committed pending session
        current events⟩
  · rename_i other
    refine (ensures_enterLine inside (withoutLineEnd raw)).mono ?_
      (fun _ _ impossible => impossible.elim)
    rintro reply inner ⟨isReply, kept, edited, lines, pending, session, within, events, count, -⟩
    subst isReply
    refine (ensures_conclude_silent (by decide) rfl rfl rfl).mono ?_
      (fun _ _ impossible => impossible)
    rintro output after ⟨silent, unchanged⟩
    subst unchanged
    exact ⟨silent, .entered other (.trans (.inside editor ..) (kept.trans (.inside ..))) edited
      lines pending session within events count⟩

end EditorM

end LineEditor

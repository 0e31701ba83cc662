import LineEditor.Proofs.Editor.Outcomes

/-!
# Commands that change no line

The commands that show lines, tell of the session or set something in it, run
the shell and write the buffer to a file.  Each of them is consulted or
declines; none can fail by a line number, because the lines it is given can be
addressed.
-/

set_option autoImplicit false

namespace LineEditor

namespace Editor

/-- A reply that leaves the editor as it is. -/
theorem Consulted.refl (editor : Editor) {reply : Reply} (succeeded : reply.status ≠ "error")
    (stays : reply.switchTo? = none) : editor.Consulted reply editor where
  framed := .refl editor
  buffer := .refl editor.buffer
  session := rfl
  succeeded := succeeded
  stays := stays

/-- A reply after a visit to a line that can be addressed. -/
theorem Consulted.visit {editor : Editor} {line : Nat} (first : 1 ≤ line)
    (within : line ≤ editor.buffer.lastLine) {reply : Reply} (succeeded : reply.status ≠ "error")
    (stays : reply.switchTo? = none) :
    editor.Consulted reply { editor with buffer := { editor.buffer with current := line } } where
  framed := .inside ..
  buffer := { Buffer.SameText.refl editor.buffer with placed := fun _ => ⟨first, within⟩ }
  session := rfl
  succeeded := succeeded
  stays := stays

/-- Declining without having done anything. -/
theorem Declined.refl (editor : Editor) {fault : Fault} (plain : fault.IsPlain) :
    editor.Declined fault editor :=
  (Sought.refl editor).declined plain

end Editor

namespace EditorM

variable {editor : Editor} {invocation : Invocation} {arity : Arity}

/-! ## Displaying lines -/

/-- Visiting lines that can be addressed succeeds, and the last of them becomes the current one. -/
theorem ensures_visitLines (fits : invocation.Fits arity editor.buffer.lastLine) :
    (visitLines invocation).Ensures editor
      (fun _ after =>
        after = { editor with buffer := { editor.buffer with current := invocation.stop } })
      (fun _ _ => False) := by
  have first : 1 ≤ invocation.stop := Nat.le_trans fits.first fits.ordered
  obtain ⟨lines, success⟩ :=
    editor.buffer.readRange_addressed fits.first fits.ordered fits.last
  have moved := editor.buffer.setCurrent_placed first fits.last
  simp only [visitLines, setCurrent, ensures_bind, ensures_get, ensures_lift,
    ensures_modifyBuffer, ensures_pure, success, moved]
  simp

/-- The lines that are visited may be shown in any way. -/
theorem ensures_shownLines (fits : invocation.Fits arity editor.buffer.lastLine)
    (shown : List String → List String) :
    (visitLines invocation >>= fun lines =>
        pure { status := "print", output := shown lines } : EditorM Reply).Ensures editor
      editor.Consulted editor.Declined := by
  rw [ensures_bind]
  refine (ensures_visitLines fits).mono ?_ (fun _ _ impossible => impossible.elim)
  rintro lines after rfl
  rw [ensures_pure]
  exact .visit (Nat.le_trans fits.first fits.ordered) fits.last (by simp) rfl

theorem ensures_printLines (fits : invocation.Fits arity editor.buffer.lastLine) :
    (printLines invocation).Ensures editor editor.Consulted editor.Declined :=
  ensures_shownLines fits fun lines => lines

theorem ensures_numberLines (fits : invocation.Fits arity editor.buffer.lastLine) :
    (numberLines invocation).Ensures editor editor.Consulted editor.Declined :=
  ensures_shownLines fits _

theorem ensures_listLines (fits : invocation.Fits arity editor.buffer.lastLine) :
    (listLines invocation).Ensures editor editor.Consulted editor.Declined :=
  ensures_shownLines fits _

theorem ensures_showLineNumber :
    (showLineNumber invocation).Ensures editor editor.Consulted editor.Declined := by
  rw [showLineNumber, ensures_pure]
  exact .refl editor (by simp) rfl

theorem ensures_comment : comment.Ensures editor editor.Consulted editor.Declined := by
  rw [comment, ensures_pure]
  exact .refl editor (by decide) rfl

/-! ## The session -/

theorem ensures_showError : showError.Ensures editor editor.Consulted editor.Declined := by
  simp only [showError, ensures_bind, ensures_get, ensures_pure]
  exact .refl editor (by simp) rfl

theorem ensures_toggleVerbose : toggleVerbose.Ensures editor editor.Consulted editor.Declined := by
  simp only [toggleVerbose, showError, ensures_bind, ensures_modifySession, ensures_get,
    ensures_pure]
  exact { Editor.Consulted.refl editor (by simp) rfl with
    framed := .inside ..
    buffer := .refl _
    session := rfl }

theorem ensures_togglePrompt : togglePrompt.Ensures editor editor.Consulted editor.Declined := by
  simp only [togglePrompt, ensures_bind, ensures_modifySession, ensures_pure]
  exact ⟨.inside .., .refl _, rfl, by decide, rfl⟩

theorem ensures_setMark :
    (setMark invocation).Ensures editor editor.Consulted editor.Declined := by
  rw [setMark]
  split
  · simp only [ensures_bind, ensures_modifySession, ensures_pure]
    exact ⟨.inside .., .refl _, rfl, by decide, rfl⟩
  · rw [ensures_refuse]
    exact .refl editor (Fault.isPlain_refusal (by decide))

theorem ensures_showFileName : showFileName.Ensures editor editor.Consulted editor.Declined := by
  simp only [showFileName, ensures_bind, ensures_get, ensures_pure]
  exact .refl editor (by simp) rfl

/-- Quitting is the one command that warns of unsaved changes, and takes note of it. -/
theorem ensures_quit : quit.Ensures editor editor.Consulted editor.Declined := by
  simp only [quit, ensures_bind, ensures_get, ensures_ite, ensures_modifySession, ensures_pure,
    ensures_refuse]
  constructor
  · intro _
    exact ⟨.inside .., .refl _, rfl, by decide, rfl⟩
  · intro _
    exact ⟨.inside .., rfl, rfl, by simp [Fault.IsMisuse]⟩

theorem ensures_quitUnconditionally :
    quitUnconditionally.Ensures editor editor.Consulted editor.Declined := by
  simp only [quitUnconditionally, ensures_bind, ensures_modifySession, ensures_pure]
  exact ⟨.inside .., .refl _, rfl, by decide, rfl⟩

/-! ## The shell and files -/

theorem ensures_runShell :
    (runShell invocation).Ensures editor editor.Consulted editor.Declined := by
  simp only [runShell, executeCommand, ensures_bind, ensures_ite, ensures_refuse, ensures_span,
    ensures_get, ensures_lift, ensures_set, ensures_pure]
  refine ⟨fun _ => .refl editor (Fault.isPlain_refusal (by decide)), fun _ =>
    ⟨fun executed _ => ?_, fun fault failed => ?_⟩⟩
  · exact ⟨.inside .., .refl _, rfl, by simp, rfl⟩
  · have plain := Shell.plain_execute _ _ _ _ fault failed
    exact ⟨.inside .., rfl, (Editor.Declined.refl editor plain).session,
      plain.1⟩

theorem ensures_saveJob (path? : Option String) :
    (saveJob path?).Ensures editor (fun _ after => after = editor)
      (fun fault after => after = editor ∧ fault.IsPlain) := by
  simp only [saveJob, ensures_bind, ensures_get]
  split
  · rw [ensures_pure]
  · rw [ensures_refuse]
    exact ⟨rfl, Fault.isPlain_refusal (by decide)⟩
  · rename_i fault other failed
    rw [ensures_throw]
    rcases Buffer.prepareSave_fault failed with missing | plain
    · exact absurd missing other
    · exact ⟨rfl, plain⟩

/-- Saving changes nothing of the buffer but its path and the note that there are changes. -/
theorem ensures_saveBuffer (path? : Option String) :
    (saveBuffer path?).Ensures editor
      (fun _ after => editor.Framed after ∧ editor.buffer.SameText after.buffer ∧
        after.session = editor.session)
      (fun fault after => editor.Framed after ∧ after.buffer = editor.buffer ∧
        after.session = editor.session ∧ fault.IsPlain) := by
  simp only [saveBuffer, ensures_bind]
  refine (ensures_saveJob path?).mono ?_ ?_
  · intro job after same
    subst same
    simp only [writeBytes, ensures_get, ensures_span, ensures_bind, ensures_lift, ensures_set,
      ensures_modifyBuffer, ensures_pure]
    refine ⟨fun disk _ => ⟨?_, fun fault failed => by cases failed⟩, ?_⟩
    · intro saved marked
      cases marked
      exact ⟨.inside .., { Buffer.SameText.refl after.buffer with placed := id }, rfl⟩
    · intro fault failed
      exact ⟨.inside .., rfl, rfl, Disk.plain_write _ _ _ fault failed⟩
  · rintro fault after ⟨same, plain⟩
    subst same
    exact ⟨.refl after, rfl, rfl, plain⟩

theorem isPlain_refusingFiles {fault : Fault} (plain : fault.IsPlain) (cause : FileCause) :
    (if isFileFault fault then Fault.refusal (.inputOutput cause) else fault).IsPlain := by
  split
  · exact Fault.isPlain_refusal (by simp)
  · exact plain

theorem ensures_writeFile :
    (writeFile invocation).Ensures editor editor.Consulted editor.Declined := by
  simp only [writeFile, ensures_bind, ensures_refusingFiles, ensures_pure]
  refine (ensures_saveBuffer _).mono ?_ ?_
  · rintro _ after ⟨framed, sameText, session⟩
    exact ⟨framed, sameText, session ▸ rfl, by simp, rfl⟩
  · rintro fault after ⟨framed, buffer, session, plain⟩
    have declined := Editor.Declined.refl editor (isPlain_refusingFiles plain .cannotWrite)
    exact ⟨framed, buffer, session ▸ declined.session, declined.notMisuse⟩

end EditorM

end LineEditor

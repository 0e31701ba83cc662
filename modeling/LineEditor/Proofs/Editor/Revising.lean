import LineEditor.Proofs.Buffer.Composition
import LineEditor.Proofs.Buffer.Transactions
import LineEditor.Proofs.Editor.Consulting

/-!
# Commands that change lines

The commands that edit the document do so inside a transaction.  Given lines
that can be addressed, each of them either declines before its first edit or
makes all of its edits; the line numbers that it works out itself stay in range,
also after lines have been deleted and in an empty buffer.

The commands that open text entry end with a place for the text that is there
(`EditorM.ensures_openText`).
-/

set_option autoImplicit false

namespace LineEditor

/-- A substitution changes only lines that it was given. -/
theorem Substitution.changes_within
    {replace : String → Except Pattern.PatternFault (String × Nat)} {lines : List String} :
    ∀ {number : Nat} {changes : List (Nat × String)},
      Substitution.changes replace number lines = .ok changes →
        ∀ change ∈ changes, number ≤ change.1 ∧ change.1 < number + lines.length := by
  induction lines with
  | nil =>
      intro number changes success change member
      cases success
      cases member
  | cons line rest ih =>
      intro number changes success change member
      rw [Substitution.changes] at success
      split at success
      · cases success
      · rename_i updated hits _
        cases others : Substitution.changes replace (number + 1) rest with
        | error fault => simp [others, bind, Except.bind] at success
        | ok more =>
            simp only [others, bind, Except.bind, pure, Except.pure, Except.ok.injEq] at success
            have later : change ∈ more →
                number ≤ change.1 ∧ change.1 < number + (rest.length + 1) := by
              intro there
              have := ih others change there
              omega
            rw [List.length_cons]
            split at success
            · subst success
              exact later member
            · subst success
              rcases List.mem_cons.mp member with rfl | there
              · exact ⟨Nat.le_refl _, by omega⟩
              · exact later there

namespace Editor

/-- Edits that leave the mode as it is. -/
theorem Revised.edited {editor : Editor} {buffer : Buffer} {count : Nat}
    (edited : editor.buffer.Edited count buffer) {reply : Reply}
    (succeeded : reply.status ≠ "error") (goesOn : reply.ended = false)
    (stays : reply.switchTo? = none) : editor.Revised reply { editor with buffer } where
  framed := .inside ..
  buffer := ⟨count, edited⟩
  session := rfl
  succeeded := succeeded
  goesOn := goesOn
  switch := .inl stays

end Editor

namespace EditorM

variable {editor : Editor} {invocation : Invocation}

/-! ## Text entry -/

/-- Text entry opens behind the nearest line that is there, in the buffer as it has been edited so
far. -/
theorem ensures_openText {middle : Editor} {count : Nat}
    (edited : editor.buffer.Edited count middle.buffer)
    (same : middle = { editor with buffer := middle.buffer }) (after : Int) :
    (openText after).Ensures middle editor.Revised editor.Declined := by
  simp only [openText, ensures_bind, ensures_get, ensures_modifySession, ensures_pure]
  refine ⟨?_, ⟨count, edited⟩, ?_, by decide, rfl, .inr ⟨rfl, rfl, ?_, ?_⟩⟩
  · rw [same]
    exact .inside ..
  · rw [same]
    rfl
  · simp only [Editor.updateSession_session]
    omega
  · simp only [Editor.updateSession_session, Editor.updateSession_buffer]
    omega

theorem ensures_appendText :
    (appendText invocation).Ensures editor editor.Revised editor.Declined :=
  ensures_openText (.refl editor.buffer) rfl _

theorem ensures_insertText :
    (insertText invocation).Ensures editor editor.Revised editor.Declined :=
  ensures_openText (.refl editor.buffer) rfl _

section Opened

variable {arity : Arity} (opened : editor.buffer.opened?.isSome)
  (fits : invocation.Fits arity editor.buffer.lastLine)
include opened fits

theorem ensures_changeLines :
    (changeLines invocation).Ensures editor editor.Revised editor.Declined := by
  obtain ⟨buffer, success, edited, -⟩ :=
    Buffer.removeRange_within opened fits.first fits.ordered fits.last
  rw [changeLines, ensures_bind, ensures_modifyBuffer_ok success]
  exact ensures_openText edited rfl _

/-! ## Edits -/

theorem ensures_deleteLines :
    (deleteLines invocation).Ensures editor editor.Revised editor.Declined := by
  obtain ⟨buffer, success, edited, -, -⟩ :=
    Buffer.removeLines_within opened fits.first fits.ordered fits.last
  rw [deleteLines, ensures_bind, ensures_modifyBuffer_ok success, ensures_pure]
  exact .edited edited (by decide) rfl rfl

omit opened in
/-- The last line to be joined is one that is there. -/
theorem joinStop_within (nonempty : editor.buffer.lineCount ≠ 0) {stop : Nat}
    (found : joinStop invocation editor.buffer.lineCount = .ok stop) :
    stop ≤ editor.buffer.lineCount := by
  rw [joinStop] at found
  split at found
  · cases found
    exact Buffer.le_lineCount nonempty fits.last
  · split at found
    · cases found
    · cases found
      omega

omit opened fits in
theorem plain_joinStop (invocation : Invocation) (lineCount : Nat) :
    PlainOutcome (joinStop invocation lineCount) := by
  rw [joinStop]
  split
  · exact .ok _
  · split
    · exact .refused (by decide)
    · exact .ok _

theorem ensures_joinLines :
    (joinLines invocation).Ensures editor editor.Revised editor.Declined := by
  simp only [joinLines, ensures_bind, ensures_get, ensures_lift, ensures_ite, ensures_pure]
  refine ⟨?_, fun fault failed => .refl editor (plain_joinStop _ _ fault failed)⟩
  intro stop found
  constructor
  · rintro ⟨several, nonempty⟩
    have within := joinStop_within fits (by omega) found
    obtain ⟨buffer, success, edited, -, -⟩ :=
      Buffer.joinLines_within opened fits.first several within
    rw [ensures_modifyBuffer_ok success]
    exact .edited edited (by decide) rfl rfl
  · intro _
    exact .edited (.refl editor.buffer) (by decide) rfl rfl

end Opened

/-- The place to put lines is behind a line that is there, or at the top. -/
theorem ensures_destination (args : String) (editor : Editor) :
    (destination args).Ensures editor
      (fun target after => editor.Sought after ∧ target ≤ after.buffer.lineCount)
      (fun fault after => editor.Sought after ∧ fault.IsPlain) := by
  simp only [destination, ensures_bind, ensures_get, ensures_ite, ensures_refuse, ensures_pure]
  refine (ensures_resolveAddress _ editor).mono ?_ (fun _ _ failed => failed)
  intro line after sought
  exact ⟨fun _ => ⟨sought, Fault.isPlain_refusal (by decide)⟩,
    fun _ => ⟨sought, Nat.min_le_right _ _⟩⟩

section Opened

variable {arity : Arity} (opened : editor.buffer.opened?.isSome)
  (fits : invocation.Fits arity editor.buffer.lastLine)
include opened fits

theorem ensures_moveLines :
    (moveLines invocation).Ensures editor editor.Revised editor.Declined := by
  simp only [moveLines, ensures_bind]
  refine (ensures_destination invocation.args editor).mono ?_
    (fun _ _ failed => failed.1.declined failed.2)
  rintro target middle ⟨sought, there⟩
  rw [← sought.buffer] at opened fits
  simp only [ensures_bind, ensures_get, ensures_ite, ensures_refuse, ensures_pure]
  refine ⟨fun _ => sought.declined (Fault.isPlain_refusal (by decide)), ?_⟩
  intro outside
  constructor
  · intro nonempty
    have within := Buffer.le_lineCount nonempty fits.last
    obtain ⟨buffer, success, edited, -⟩ :=
      Buffer.moveLines_within opened fits.first fits.ordered within there outside
    rw [ensures_modifyBuffer_ok success]
    exact sought.revised_inner id (.edited edited (by decide) rfl rfl)
  · intro _
    exact sought.revised_inner id (.edited (.refl middle.buffer) (by decide) rfl rfl)

theorem ensures_copyLines :
    (copyLines invocation).Ensures editor editor.Revised editor.Declined := by
  simp only [copyLines, ensures_bind]
  refine (ensures_destination invocation.args editor).mono ?_
    (fun _ _ failed => failed.1.declined failed.2)
  rintro target middle ⟨sought, there⟩
  rw [← sought.buffer] at opened fits
  simp only [ensures_bind, ensures_get, ensures_ite, ensures_pure]
  constructor
  · intro nonempty
    have within := Buffer.le_lineCount nonempty fits.last
    obtain ⟨buffer, success, edited, -⟩ :=
      Buffer.copyLines_within opened fits.first fits.ordered within there
    rw [ensures_modifyBuffer_ok success]
    exact sought.revised_inner id (.edited edited (by decide) rfl rfl)
  · intro _
    exact sought.revised_inner id (.edited (.refl middle.buffer) (by decide) rfl rfl)

omit opened in
/-- The changes of a substitution are to lines that are there, and finding them never misuses the
buffer. -/
theorem changesOf_within (substitution : Substitution) :
    PlainOutcome (changesOf editor substitution invocation) ∧
      ∀ changes, changesOf editor substitution invocation = .ok changes →
        ∀ change ∈ changes, 1 ≤ change.1 ∧ change.1 ≤ editor.buffer.lineCount := by
  rw [changesOf]
  cases Pattern.read editor.platform.engine substitution.pattern with
  | error fault =>
      exact ⟨.error (Fault.isPlain_ofPattern fault), fun changes success => by cases success⟩
  | ok compiled =>
      by_cases empty : editor.buffer.lineCount = 0
      · simp only [Buffer.readRange_empty _ empty]
        refine ⟨.ok [], ?_⟩
        intro changes success change member
        cases success
        cases member
      · have within := Buffer.le_lineCount empty fits.last
        have size := Buffer.length_range editor.buffer.lines fits.first fits.ordered within
        simp only [Buffer.readRange_within _ fits.first fits.ordered within]
        refine ⟨Substitution.plain_changes _ _ _, ?_⟩
        intro changes success change member
        have := Substitution.changes_within success change member
        have := fits.first
        have := fits.ordered
        omega

theorem ensures_substitute :
    (substitute invocation).Ensures editor editor.Revised editor.Declined := by
  simp only [substitute, ensures_bind, ensures_get, ensures_lift]
  refine ⟨?_, fun fault failed => .refl editor (Substitution.plain_read _ _ _ _ fault failed)⟩
  intro substitution _
  constructor
  · intro changes found
    have inRange := (changesOf_within fits substitution).2 changes found
    split
    · rw [ensures_refuse]
      exact .refl editor (Fault.isPlain_refusal (by decide))
    · rename_i last line isLast
      obtain ⟨first, within⟩ := inRange _ (List.mem_of_getLast? isLast)
      obtain ⟨buffer, success, edited, -, count⟩ :=
        Buffer.replaceLines_within changes opened inRange
      have room : last ≤ buffer.lastLine := by
        simp only [Buffer.lastLine, count]
        omega
      have moved := buffer.setCurrent_placed first room
      rw [ensures_bind, ensures_modifyBuffer_ok success, ensures_bind, setCurrent,
        ensures_modifyBuffer_ok moved]
      simp only [ensures_bind, ensures_modifySession, ensures_pure]
      exact ⟨.inside .., ⟨_, edited.trans (buffer.edited_current first room)⟩, rfl, by decide, rfl,
        .inl rfl⟩
  · intro fault failed
    exact .refl editor ((changesOf_within fits substitution).1 fault failed)

omit fits in
theorem ensures_readFile :
    (readFile invocation).Ensures editor editor.Revised editor.Declined := by
  simp only [readFile, fileText, ensures_bind, ensures_ite, ensures_refuse, ensures_refusingFiles,
    ensures_get, ensures_lift, ensures_pure]
  refine ⟨fun _ => .refl editor (Fault.isPlain_refusal (by decide)), fun _ => ?_⟩
  constructor
  · intro text _
    obtain ⟨buffer, success, edited, -, -⟩ :=
      Buffer.insertText_within opened invocation.start text
    rw [ensures_modifyBuffer_ok success]
    exact .edited edited (by simp) rfl rfl
  · intro fault failed
    have isPlain := Disk.plain_readText _ _ _ _ fault failed
    exact .refl editor (isPlain_refusingFiles isPlain .cannotOpen)

end Opened

/-! ## Undo -/

/-- Undo succeeds as soon as there is something to undo. -/
theorem ensures_undo :
    undo.Ensures editor editor.Undone (fun fault after => editor.Declined fault after ∧
      fault = .refusal .nothingToUndo ∧ editor.buffer.history.entries = []) := by
  simp only [undo, ensures_bind, ensures_modifyBuffer, ensures_pure]
  cases entries : editor.buffer.history.entries with
  | nil =>
      simp only [Buffer.undo?_empty entries]
      refine ⟨fun _ success => (by cases success), ?_⟩
      intro fault failed
      cases failed
      exact ⟨.refl editor (Fault.isPlain_refusal (by decide)), rfl, trivial⟩
  | cons entry rest =>
      have some := Buffer.undo?_entries entries
      simp only [some]
      refine ⟨?_, fun fault failed => by cases failed⟩
      intro restored success
      cases success
      exact ⟨.inside .., some, rfl, rfl⟩

end EditorM

end LineEditor

import LineEditor.Proofs.Editor.Revising

/-!
# How the editor's own commands end

Each of the editor's own commands keeps to what its contract says: one that is
registered as changing the buffer revises it, the command to undo takes a change
back, and all others are consulted (`CommandSpec.Ends`).  If a command declines,
nothing has happened (`EditorM.ensures_ownHandler`).
-/

set_option autoImplicit false

namespace LineEditor

/-- The letter of the command that takes the last change back. -/
def undoLetter : Char := 'u'

/-- How a command ends that does not decline. -/
def CommandSpec.Ends (spec : CommandSpec) (before : Editor) (reply : Reply) (after : Editor) :
    Prop :=
  if spec.mutates then before.Revised reply after
  else if spec.letter = undoLetter then before.Undone reply after
  else before.Consulted reply after

/-- How a command declines; undo does so only if there is nothing to undo. -/
structure CommandSpec.Declines (spec : CommandSpec) (before : Editor) (fault : Fault)
    (after : Editor) : Prop where
  declined : before.Declined fault after
  undo : spec.letter = undoLetter →
    fault = .refusal .nothingToUndo ∧ before.buffer.history.entries = []

theorem CommandSpec.ends_mutating {spec : CommandSpec} (mutates : spec.mutates = true) :
    spec.Ends = Editor.Revised := by
  funext before reply after
  exact if_pos mutates

theorem Registry.find?_own {letter : Char} {spec : CommandSpec}
    (found : Registry.own.find? letter = some spec) :
    spec ∈ Registry.ownCommands ∧ spec.letter = letter :=
  ⟨List.mem_of_find?_eq_some found, by simpa using List.find?_some found⟩

/-- The handlers of the editor's own commands are its own. -/
theorem Registry.own_builtin {spec : CommandSpec} (own : spec ∈ Registry.ownCommands) :
    ∃ handler, spec.handler = .builtin handler := by
  have isBuiltin : ∀ spec ∈ Registry.ownCommands, ∃ handler, spec.handler = .builtin handler := by
    simp [Registry.ownCommands, Registry.ownCommand]
  exact isBuiltin spec own

namespace EditorM

variable {spec : CommandSpec} {work : EditorM Reply} {editor : Editor}

theorem ensures_revising (mutates : spec.mutates = true) (other : spec.letter ≠ undoLetter)
    (ensured : work.Ensures editor editor.Revised editor.Declined) :
    work.Ensures editor (spec.Ends editor) (spec.Declines editor) :=
  ensured.mono (fun _ _ revised => by rwa [CommandSpec.Ends, if_pos mutates])
    (fun _ _ declined => ⟨declined, fun same => absurd same other⟩)

theorem ensures_consulting (keeps : spec.mutates = false) (other : spec.letter ≠ undoLetter)
    (ensured : work.Ensures editor editor.Consulted editor.Declined) :
    work.Ensures editor (spec.Ends editor) (spec.Declines editor) :=
  ensured.mono
    (fun _ _ consulted => by rwa [CommandSpec.Ends, if_neg (by simp [keeps]), if_neg other])
    (fun _ _ declined => ⟨declined, fun same => absurd same other⟩)

theorem ensures_undoing (keeps : spec.mutates = false) (same : spec.letter = undoLetter)
    (ensured : work.Ensures editor editor.Undone (fun fault after => editor.Declined fault after ∧
      fault = .refusal .nothingToUndo ∧ editor.buffer.history.entries = [])) :
    work.Ensures editor (spec.Ends editor) (spec.Declines editor) := by
  refine ensured.mono ?_ ?_
  · intro reply after undone
    rwa [CommandSpec.Ends, if_neg (by simp [keeps]), if_pos same]
  · rintro fault after ⟨declined, nothing⟩
    exact ⟨declined, fun _ => nothing⟩

/-- **No handler of the editor's own misuses the buffer, and each ends as its contract says.** -/
theorem ensures_ownHandler (own : spec ∈ Registry.ownCommands) {invocation : Invocation}
    (opened : spec.mutates = true → editor.buffer.opened?.isSome)
    (fits : invocation.Fits spec.arity editor.buffer.lastLine) :
    (spec.handler.run invocation).Ensures editor (spec.Ends editor) (spec.Declines editor) := by
  simp only [Registry.ownCommands, List.mem_cons, List.not_mem_nil, or_false] at own
  rcases own with rfl | rfl | rfl | rfl | rfl | rfl | rfl | rfl | rfl | rfl | rfl | rfl | rfl |
    rfl | rfl | rfl | rfl | rfl | rfl | rfl | rfl | rfl | rfl | rfl
  · exact ensures_consulting rfl (by decide) ensures_showLineNumber
  · have ran : (runShell invocation).Ensures editor editor.Consulted editor.Declined :=
      ensures_runShell
    exact ensures_consulting rfl (by decide) ran
  · exact ensures_revising rfl (by decide) ensures_appendText
  · exact ensures_revising rfl (by decide) (ensures_changeLines (opened rfl) fits)
  · exact ensures_revising rfl (by decide) (ensures_deleteLines (opened rfl) fits)
  · exact ensures_consulting rfl (by decide) ensures_showFileName
  · exact ensures_consulting rfl (by decide) ensures_showError
  · exact ensures_consulting rfl (by decide) ensures_toggleVerbose
  · exact ensures_revising rfl (by decide) ensures_insertText
  · exact ensures_revising rfl (by decide) (ensures_joinLines (opened rfl) fits)
  · exact ensures_consulting rfl (by decide) ensures_setMark
  · exact ensures_consulting rfl (by decide) (ensures_listLines fits)
  · exact ensures_revising rfl (by decide) (ensures_moveLines (opened rfl) fits)
  · exact ensures_consulting rfl (by decide) (ensures_numberLines fits)
  · exact ensures_consulting rfl (by decide) (ensures_printLines fits)
  · exact ensures_consulting rfl (by decide) ensures_togglePrompt
  · exact ensures_consulting rfl (by decide) ensures_quit
  · exact ensures_consulting rfl (by decide) ensures_quitUnconditionally
  · exact ensures_revising rfl (by decide) (ensures_readFile (opened rfl))
  · exact ensures_revising rfl (by decide) (ensures_substitute (opened rfl) fits)
  · exact ensures_revising rfl (by decide) (ensures_copyLines (opened rfl) fits)
  · exact ensures_undoing rfl rfl ensures_undo
  · exact ensures_consulting rfl (by decide) ensures_writeFile
  · exact ensures_consulting rfl (by decide) ensures_comment

end EditorM

end LineEditor

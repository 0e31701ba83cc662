import LineEditor.Proofs.Editor.Effects
import LineEditor.Proofs.Editor.UndoStack

/-!
# The note that there are changes

While it is not noted that there are unsaved changes, the lines are those that
were saved last, or those from the start if none have been saved
(`Editor.unmodified_lines_saved`).  One line keeps that up because a line that
saves takes the note back and keeps the lines, and any other line notes what it
changes (`Editor.Equipped.next_saved`, `Editor.Equipped.next_noted`).
-/

set_option autoImplicit false

namespace LineEditor.Editor

/-- Whether a line saves the buffer: it writes it and is completed. -/
def saves (editor : Editor) (raw : String) : Bool :=
  editor.session.mode == .command && submittedLetter? raw == some writeLetter &&
    editor.completes (editor.answer raw)

/-- The lines that were saved last in a run, or else the given ones. -/
def savedLines (editor : Editor) (saved : List String) : List String → List String
  | [] => saved
  | raw :: rest =>
    (editor.next raw).savedLines (if editor.saves raw then editor.buffer.lines else saved) rest

variable {editor : Editor}

/-- A line that saves takes the note back and keeps the lines. -/
theorem Equipped.next_saved (equipped : editor.Equipped) {raw : String}
    (saves : editor.saves raw = true) :
    (editor.next raw).buffer.modified = false ∧
      (editor.next raw).buffer.lines = editor.buffer.lines := by
  simp only [Editor.saves, Bool.and_eq_true, beq_iff_eq] at saves
  obtain ⟨⟨awaiting, letter⟩, completed⟩ := saves
  cases ended : editor.session.ended with
  | true =>
      rw [(submit_ended ended raw).1] at completed
      simp [completes, ended] at completed
  | false =>
      have effect := equipped.effect ended raw
      revert effect completed
      generalize editor.answer raw = outcome
      generalize editor.next raw = after
      intro completed effect
      cases effect with
      | passed candid goesOn quitless unsaved =>
          cases outcome with
          | error fault => simp [completes] at completed
          | ok output => simp [completes, unsaved awaiting letter output rfl] at completed
      | saved awaiting letter kept target buffer =>
          rw [buffer]
          exact ⟨rfl, rfl⟩
      | warned awaiting otherLetter =>
          rw [letter] at otherLetter
          cases otherLetter
      | ended awaiting otherLetter =>
          rw [letter] at otherLetter
          rcases otherLetter with impossible | ⟨impossible, -⟩
          · cases impossible
          · cases impossible

/-- Any other line notes what it changes. -/
theorem Equipped.next_noted (equipped : editor.Equipped) {raw : String}
    (other : editor.saves raw = false) : editor.buffer.Noted (editor.next raw).buffer := by
  cases ended : editor.session.ended with
  | true =>
      rw [(submit_ended ended raw).2]
      exact .refl _
  | false =>
      have effect := equipped.effect ended raw
      revert effect other
      rw [saves]
      generalize editor.answer raw = outcome
      generalize editor.next raw = after
      intro other effect
      cases effect with
      | passed candid => exact candid.buffer
      | saved awaiting letter kept target buffer quitState ended' succeeded =>
          simp [awaiting, letter, completes, ended, succeeded] at other
      | warned awaiting letter accepted modified first kept buffer =>
          exact .of_same (by rw [buffer]) (by rw [buffer])
      | ended awaiting letter accepted kept buffer =>
          exact .of_same (by rw [buffer]) (by rw [buffer])

/-- A run keeps it up that the lines are those that were saved, while no changes are noted. -/
theorem Equipped.run_savedLines (lines : List String) :
    ∀ {editor : Editor} {saved : List String}, editor.Equipped →
      (editor.buffer.modified = false → editor.buffer.lines = saved) →
      (editor.run lines).buffer.modified = false →
        (editor.run lines).buffer.lines = editor.savedLines saved lines := by
  induction lines with
  | nil => exact fun _ holds => holds
  | cons raw rest ih =>
      intro editor saved equipped holds
      refine ih (equipped.next raw) ?_
      intro unmodified
      split
      · rename_i saves
        exact (equipped.next_saved saves).2
      · rename_i other
        obtain ⟨before, same⟩ := equipped.next_noted (by simpa using other) unmodified
        rw [Buffer.lines, same]
        exact holds before

/-- **The note that there are changes never hides unsaved ones.**  Take an editor that is launched
with its own commands, for any buffer, and any sequence of lines.  As long as no changes are noted,
the lines are exactly those that the last completed `w` has saved, or those from the start.  A
completed `w` takes the note back and keeps the lines. -/
theorem unmodified_lines_saved {options : LaunchOptions} {journal : Telemetry.Journal}
    {start : Editor} (own : options.UsesOwn) (success : launch options journal = .ok start)
    (lines : List String) :
    ((start.run lines).buffer.modified = false →
      (start.run lines).buffer.lines = start.savedLines start.buffer.lines lines) ∧
    ∀ raw, (start.run lines).saves raw = true →
      ((start.run lines).next raw).buffer.modified = false ∧
      ((start.run lines).next raw).buffer.lines = (start.run lines).buffer.lines := by
  have equipped := (launch_own own success).1
  exact ⟨equipped.run_savedLines lines fun _ => rfl,
    fun raw saves => (equipped.run lines).next_saved saves⟩

/-- A deletion is saved and then taken back, which is noted as a change; after another deletion, a
second save takes the note back. -/
theorem unmodified_lines_saved_twice :
    LaunchOptions.UsesOwn { buffer? := some (.ofText "one\ntwo") } ∧
      launch { buffer? := some (.ofText "one\ntwo") } { configuration := ⟨0, []⟩ } =
        .ok (ofText "one\ntwo") ∧
      (ofText "one\ntwo").buffer.modified = false ∧
      ((ofText "one\ntwo").run ["1d", "w out"]).buffer.modified = false ∧
      ((ofText "one\ntwo").run ["1d", "w out", "u"]).buffer.modified = true ∧
      ((ofText "one\ntwo").run ["1d", "w out", "u", "2d"]).saves "w" = true ∧
      (((ofText "one\ntwo").run ["1d", "w out", "u", "2d"]).next "w").buffer.modified = false ∧
      ((ofText "one\ntwo").run ["1d", "w out", "u", "2d", "w", "9p"]).buffer.lines = ["one"] := by
  have own : LaunchOptions.UsesOwn { buffer? := some (.ofText "one\ntwo") } := .inr ⟨rfl, rfl⟩
  have success := launch_ofText "one\ntwo"
  have saves : ((ofText "one\ntwo").run ["1d", "w out", "u", "2d"]).saves "w" = true := by
    decide +kernel
  refine ⟨own, success, by decide +kernel, by decide +kernel, by decide +kernel, saves,
    ((unmodified_lines_saved own success ["1d", "w out", "u", "2d"]).2 "w" saves).1, ?_⟩
  rw [(unmodified_lines_saved own success ["1d", "w out", "u", "2d", "w", "9p"]).1
    (by decide +kernel)]
  decide +kernel

end LineEditor.Editor

import LineEditor.Buffer.File
import LineEditor.Proofs.Buffer.Changes

/-!
# Valid buffers

A buffer is valid if its current line can be addressed and its history is within
its limit (`Buffer.Valid`).  Inside a transaction there is one thing more to ask
for: leaving it because of a fault puts an older current line back onto an older
document, so the two have to fit as well.

A buffer that has been made is valid (`Buffer.valid_make`), though not always for
the limit it was to have: a history without entries is not taken over.
Everything that can be done with a buffer keeps it valid, in any order: opening
transactions and leaving them in either way, the primitives with any arguments
(`Buffer.primitives_keep_valid`), taking changes back and saving.
-/

set_option autoImplicit false

namespace LineEditor

/-- The current line that a checkpoint remembers is one of the document that it remembers. -/
def Checkpoint.Placed (checkpoint : Checkpoint) : Prop :=
  1 ≤ checkpoint.current ∧ checkpoint.current ≤ max checkpoint.document.lineCount 1

namespace Buffer

/-- The current line can be addressed, the history is within this limit, and what a fault would put
back fits together. -/
structure Valid (buffer : Buffer) (limit : Int) : Prop where
  placed : buffer.Placed
  limit : buffer.history.limit = limit
  bounded : buffer.history.Bounded
  returns : ∀ checkpoint, buffer.opened? = some checkpoint → checkpoint.Placed

/-- A buffer is valid when it has been made, if there are not too many entries in the history that
it takes over. -/
theorem valid_make (parts : BufferParts) (bounded : (History.orUsual parts.history?).Bounded) :
    (make parts).Valid (History.orUsual parts.history?).limit where
  placed := clampCurrent_placed _
  limit := rfl
  bounded := bounded
  returns _ isOpen := by cases isOpen

/-- A valid buffer stays valid if an empty history is put in the place of its own, and the limit is
then the one of that history. -/
theorem Valid.withEmptyHistory {buffer : Buffer} {former : Int} (valid : buffer.Valid former)
    (limit : Int) : { buffer with history := { limit } }.Valid limit where
  placed := valid.placed
  limit := rfl
  bounded := Int.le_max_right limit 0
  returns := valid.returns

namespace Valid

variable {buffer : Buffer} {limit : Int} (valid : buffer.Valid limit)
include valid

/-! ## Transactions -/

theorem enter (label : String) : (buffer.enter label).Valid limit := by
  obtain ⟨placed, isLimit, bounded, returns⟩ := valid
  rw [Buffer.enter]
  split
  · rename_i checkpoint isOpen
    exact ⟨placed, isLimit, bounded, returns⟩
  · refine ⟨placed, isLimit, bounded, fun checkpoint isOpen => ?_⟩
    obtain rfl := Option.some.inj isOpen
    exact placed

theorem commit : buffer.commit.Valid limit := by
  obtain ⟨placed, isLimit, bounded, returns⟩ := valid
  rw [Buffer.commit]
  split
  · exact ⟨placed, isLimit, bounded, returns⟩
  · exact ⟨placed, isLimit, bounded, returns⟩
  · dsimp only
    split
    · exact ⟨placed, isLimit, History.size_push_le bounded _, fun _ isOpen => by cases isOpen⟩
    · exact ⟨placed, isLimit, bounded, fun _ isOpen => by cases isOpen⟩

theorem rollback : buffer.rollback.Valid limit := by
  obtain ⟨placed, isLimit, bounded, returns⟩ := valid
  rw [Buffer.rollback]
  split
  · exact ⟨placed, isLimit, bounded, returns⟩
  · exact ⟨placed, isLimit, bounded, returns⟩
  · rename_i checkpoint isOpen _
    exact ⟨returns checkpoint isOpen, isLimit, bounded, fun _ isOpen => by cases isOpen⟩

/-- An edit keeps a buffer valid, whether it is a transaction of its own or part of one. -/
theorem edit {change : Buffer → Buffer}
    (keeps : ∀ {buffer : Buffer}, buffer.Valid limit → (change buffer).Valid limit)
    (label : String) : (buffer.edit label change).Valid limit := by
  rw [Buffer.edit]
  split
  · exact keeps valid
  · exact (keeps (valid.enter label)).commit

/-! ## Changes of the document -/

/-- Any change of the document is one that a valid buffer survives, if the current line is moved
into it. -/
theorem apply_clampCurrent (document : Document) :
    (buffer.apply document).clampCurrent.Valid limit :=
  ⟨clampCurrent_placed _, valid.limit, valid.bounded, valid.returns⟩

/-- Where the document does not become shorter, the current line is still in it. -/
theorem apply_longer {document : Document} (longer : buffer.lineCount ≤ document.lineCount) :
    (buffer.apply document).Valid limit := by
  have first := valid.placed.1
  have last := valid.placed.2
  refine ⟨⟨first, ?_⟩, valid.limit, valid.bounded, valid.returns⟩
  simp only [lastLine, lineCount, apply] at last longer ⊢
  omega

theorem undo? {restored : Buffer} (undone : buffer.undo? = some restored) :
    restored.Valid limit := by
  obtain ⟨entry, rest, back⟩ := undo?_restored undone
  refine ⟨back.placed, ?_, ?_, fun checkpoint isOpen => ?_⟩
  · rw [back.history]
    exact valid.limit
  · rw [back.history]
    exact valid.bounded.tail back.entries
  · exact valid.returns checkpoint (back.opened ▸ isOpen)

theorem markSaved (path : String) : (buffer.markSaved path).Valid limit :=
  ⟨valid.placed, valid.limit, valid.bounded, valid.returns⟩

end Valid

/-- Inserting lines does not make a document shorter, wherever they are put. -/
theorem lineCount_insert (document : Document) (place : Int) (lines : List String) :
    document.lineCount ≤ (document.update place place lines).lineCount := by
  simp only [Document.update, Document.replace, Document.lineCount, Nat.max_self,
    List.length_append, List.length_take, List.length_drop]
  omega

/-- **The primitives keep a buffer valid**, whatever their arguments are. -/
theorem primitives_keep_valid (limit : Int) :
    PrimitivesRespect fun before after => before.Valid limit → after.Valid limit where
  refl _ := id
  trans earlier later := later ∘ earlier
  setCurrent line := by
    intro buffer after success valid
    simp only [setCurrent] at success
    split at success
    · cases success
    · cases success
      exact ⟨⟨by simp only; omega, by simp only [lastLine, lineCount] at *; omega⟩, valid.limit,
        valid.bounded, valid.returns⟩
  insertLines place lines := by
    intro buffer after success valid
    simp only [insertLines] at success
    cases checked : buffer.checkLine 0 (place buffer) with
    | error fault => simp [checked, bind, Except.bind] at success
    | ok result =>
        simp only [checked, bind, Except.bind] at success
        split at success
        · cases success
          exact valid
        · cases success
          exact valid.edit (fun valid => valid.apply_longer (lineCount_insert _ _ _)) _
  deleteRange start finish := by
    intro buffer after success valid
    simp only [deleteRange] at success
    cases checked : buffer.checkRange start finish with
    | error fault => simp [checked, bind, Except.bind] at success
    | ok result =>
        simp only [checked, bind, Except.bind] at success
        cases success
        exact valid.edit (fun valid => valid.apply_clampCurrent _) _

end Buffer

end LineEditor

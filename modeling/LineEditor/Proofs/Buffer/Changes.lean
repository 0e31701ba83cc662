import LineEditor.Buffer.Edit
import LineEditor.Proofs.Buffer.Transactions

/-!
# Changes with any arguments

The primitives of a buffer check the line numbers they are given.  So whatever
the arguments are, a primitive that succeeds has done what primitives do: it has
noted that there are changes if it has changed the document (`Buffer.Noted`),
and inside a transaction it has made primitive edits and nothing else
(`Buffer.Amended`).

`Buffer.Amends` says so of a change of a buffer that may fail.  It passes from
the primitives to everything that is composed of them, so no composed edit needs
to know anything about its line numbers for it.
-/

set_option autoImplicit false

namespace LineEditor

theorem Document.EditedBy.eq_of_zero {before after : Document}
    (edited : EditedBy 0 before after) : after = before := by
  cases edited
  rfl

namespace Buffer

/-! ## Noting changes -/

/-- No change of the document goes unnoted: if no changes are noted afterwards, there were none
before, and the document is still the same. -/
def Noted (before after : Buffer) : Prop :=
  after.modified = false → before.modified = false ∧ after.document = before.document

theorem Noted.refl (buffer : Buffer) : buffer.Noted buffer :=
  fun unmodified => ⟨unmodified, rfl⟩

theorem Noted.trans {before middle after : Buffer} (earlier : before.Noted middle)
    (later : middle.Noted after) : before.Noted after := by
  intro unmodified
  obtain ⟨unmodifiedMiddle, laterSame⟩ := later unmodified
  obtain ⟨unmodifiedBefore, earlierSame⟩ := earlier unmodifiedMiddle
  exact ⟨unmodifiedBefore, laterSame.trans earlierSame⟩

theorem Noted.of_modified {before after : Buffer} (modified : after.modified = true) :
    before.Noted after := by
  intro unmodified
  rw [modified] at unmodified
  cases unmodified

/-- Where document and flag are the same, there is nothing to note. -/
theorem Noted.of_same {before after : Buffer} (document : after.document = before.document)
    (modified : after.modified = before.modified) : before.Noted after := by
  intro unmodified
  exact ⟨modified ▸ unmodified, document⟩

theorem Edited.noted {count : Nat} {before after : Buffer} (edited : Edited count before after) :
    before.Noted after := by
  intro unmodified
  rw [edited.modified, Bool.or_eq_false_iff] at unmodified
  obtain ⟨unmodifiedBefore, none⟩ := unmodified
  have zero : count = 0 := by simpa using none
  subst zero
  exact ⟨unmodifiedBefore, edited.document.eq_of_zero⟩

/-! ## Amendments -/

/-- Every change of the document is noted, and inside a transaction there are only primitive
edits. -/
structure Amended (before after : Buffer) : Prop where
  noted : before.Noted after
  edited : before.opened?.isSome → ∃ count, before.Edited count after

theorem Amended.refl (buffer : Buffer) : buffer.Amended buffer :=
  ⟨.refl buffer, fun _ => ⟨0, .refl buffer⟩⟩

theorem Amended.trans {before middle after : Buffer} (earlier : before.Amended middle)
    (later : middle.Amended after) : before.Amended after := by
  refine ⟨earlier.noted.trans later.noted, fun opened => ?_⟩
  obtain ⟨first, editedFirst⟩ := earlier.edited opened
  obtain ⟨second, editedSecond⟩ := later.edited (editedFirst.opened ▸ opened)
  exact ⟨first + second, editedFirst.trans editedSecond⟩

theorem Edited.amended {count : Nat} {before after : Buffer} (edited : Edited count before after) :
    before.Amended after :=
  ⟨edited.noted, fun _ => ⟨count, edited⟩⟩

/-- Leaving a transaction normally keeps the flag. -/
@[simp] theorem commit_modified (buffer : Buffer) : buffer.commit.modified = buffer.modified := by
  rw [commit]
  split
  · rfl
  · rfl
  · dsimp only
    split <;> rfl

/-- An edit that notes a change does so inside of a transaction and outside. -/
theorem edit_modified {change : Buffer → Buffer} (notes : ∀ buffer, (change buffer).modified = true)
    (buffer : Buffer) (label : String) : (buffer.edit label change).modified = true := by
  rw [edit]
  split
  · exact notes buffer
  · rw [commit_modified]
    exact notes _

/-! ## What the checks say -/

theorem checkLine_ok {buffer : Buffer} {lowest line : Int} {result : Unit}
    (success : buffer.checkLine lowest line = .ok result) :
    lowest ≤ line ∧ line ≤ buffer.lineCount := by
  rw [checkLine] at success
  split at success
  · cases success
  · omega

theorem checkRange_ok {buffer : Buffer} {start finish : Int} {result : Unit}
    (success : buffer.checkRange start finish = .ok result) :
    1 ≤ start ∧ start ≤ finish ∧ finish ≤ buffer.lineCount := by
  rw [checkRange] at success
  cases first : buffer.checkLine 1 start with
  | error fault => simp [first, bind, Except.bind] at success
  | ok one =>
      cases last : buffer.checkLine 1 finish with
      | error fault => simp [first, last, bind, Except.bind] at success
      | ok two =>
          simp only [first, last, bind, Except.bind] at success
          split at success
          · cases success
          · have := checkLine_ok first
            have := checkLine_ok last
            omega

/-! ## The primitives, whatever their arguments -/

/-- A change of a buffer that amends it, unless it fails. -/
def Amends (change : Buffer → Except Fault Buffer) : Prop :=
  ∀ buffer after, change buffer = .ok after → buffer.Amended after

theorem amends_setCurrent (line : Buffer → Int) :
    Amends fun buffer => buffer.setCurrent (line buffer) := by
  intro buffer after success
  simp only [setCurrent] at success
  split at success
  · cases success
  · rename_i within
    cases success
    exact (edited_current buffer (by omega) (by omega)).amended

theorem amends_insertLines (place : Buffer → Int) (lines : List String) :
    Amends fun buffer => buffer.insertLines (place buffer) lines := by
  intro buffer after success
  simp only [insertLines] at success
  cases checked : buffer.checkLine 0 (place buffer) with
  | error fault => simp [checked, bind, Except.bind] at success
  | ok result =>
      obtain ⟨low, high⟩ := checkLine_ok checked
      simp only [checked, bind, Except.bind] at success
      split at success
      · cases success
        exact .refl buffer
      · rename_i nonempty
        cases success
        refine ⟨.of_modified (edit_modified (fun _ => rfl) buffer _), fun opened => ⟨1, ?_⟩⟩
        have index : place buffer = ((place buffer).toNat : Int) := by omega
        rw [edit_opened opened, index, Document.update_insert buffer.document (by
          show (place buffer).toNat ≤ buffer.lineCount
          omega)]
        exact edited_insert buffer (by omega) (by simpa using nonempty)

theorem amends_deleteRange (start finish : Int) :
    Amends fun buffer => buffer.deleteRange start finish := by
  intro buffer after success
  simp only [deleteRange] at success
  cases checked : buffer.checkRange start finish with
  | error fault => simp [checked, bind, Except.bind] at success
  | ok result =>
      obtain ⟨first, ordered, last⟩ := checkRange_ok checked
      simp only [checked, bind, Except.bind] at success
      cases success
      refine ⟨.of_modified (edit_modified (fun _ => rfl) buffer _), fun opened => ⟨1, ?_⟩⟩
      have low : start = (start.toNat : Int) := by omega
      have high : finish = (finish.toNat : Int) := by omega
      have within : finish.toNat ≤ buffer.lineCount := by omega
      rw [edit_opened opened, low, high,
        Document.update_delete buffer.document (by omega) (by omega) within]
      exact edited_delete buffer (by omega) (by omega) within

/-! ## Composed edits, whatever their arguments -/

/-- A change of a buffer that keeps to a relation, unless it fails. -/
def Respects (related : Buffer → Buffer → Prop) (change : Buffer → Except Fault Buffer) : Prop :=
  ∀ buffer after, change buffer = .ok after → related buffer after

/-- A relation that the primitives keep to, one after the other. -/
structure PrimitivesRespect (related : Buffer → Buffer → Prop) : Prop where
  refl (buffer : Buffer) : related buffer buffer
  trans {before middle after : Buffer} :
    related before middle → related middle after → related before after
  setCurrent (line : Buffer → Int) : Respects related fun buffer => buffer.setCurrent (line buffer)
  insertLines (place : Buffer → Int) (lines : List String) :
    Respects related fun buffer => buffer.insertLines (place buffer) lines
  deleteRange (start finish : Int) : Respects related fun buffer => buffer.deleteRange start finish

namespace PrimitivesRespect

variable {α : Type} {related : Buffer → Buffer → Prop} {first next : Buffer → Except Fault Buffer}
  (respect : PrimitivesRespect related)
include respect

theorem ok : Respects related fun buffer => .ok buffer := by
  intro buffer after success
  cases success
  exact respect.refl buffer

theorem andThen (one : Respects related first) (two : Respects related next) :
    Respects related fun buffer => first buffer >>= next := by
  intro buffer after success
  cases middle : first buffer with
  | error fault => simp [middle, bind, Except.bind] at success
  | ok result =>
      simp only [middle, bind, Except.bind] at success
      exact respect.trans (one buffer result middle) (two result after success)

omit respect in
/-- A change may depend on what has been read before. -/
theorem reading {read : Buffer → Except Fault α} {change : α → Buffer → Except Fault Buffer}
    (respects : ∀ value, Respects related (change value)) :
    Respects related fun buffer => read buffer >>= fun value => change value buffer := by
  intro buffer after success
  cases value : read buffer with
  | error fault => simp [value, bind, Except.bind] at success
  | ok result =>
      simp only [value, bind, Except.bind] at success
      exact respects result buffer after success

theorem removeRange (start stop : Nat) :
    Respects related fun buffer => buffer.removeRange start stop := by
  intro buffer after success
  simp only [Buffer.removeRange] at success
  split at success
  · exact respect.ok buffer after success
  · exact respect.deleteRange start stop buffer after success

theorem removeLines (start stop : Nat) :
    Respects related fun buffer => buffer.removeLines start stop :=
  respect.andThen (respect.removeRange start stop) (respect.setCurrent _)

theorem joinLines (start stop : Nat) :
    Respects related fun buffer => buffer.joinLines start stop :=
  reading fun _ => respect.andThen (respect.deleteRange start stop)
    (respect.andThen (respect.insertLines (fun _ => _) _) (respect.setCurrent fun _ => _))

theorem moveLines (start stop target : Nat) :
    Respects related fun buffer => buffer.moveLines start stop target :=
  reading fun _ => respect.andThen (respect.deleteRange start stop)
    (respect.andThen (respect.insertLines (fun _ => _) _) (respect.setCurrent fun _ => _))

theorem copyLines (start stop target : Nat) :
    Respects related fun buffer => buffer.copyLines start stop target :=
  reading fun _ =>
    respect.andThen (respect.insertLines (fun _ => _) _) (respect.setCurrent fun _ => _)

theorem replaceLine (number : Nat) (line : String) :
    Respects related fun buffer => buffer.replaceLine number line :=
  respect.andThen (respect.deleteRange number number) (respect.insertLines (fun _ => _) _)

theorem replaceLines (changes : List (Nat × String)) :
    Respects related fun buffer => buffer.replaceLines changes := by
  induction changes with
  | nil => exact respect.ok
  | cons change rest ih => exact respect.andThen (respect.replaceLine change.1 change.2) ih

theorem insertText (after : Nat) (text : String) :
    Respects related fun buffer => buffer.insertText after text := by
  intro buffer result success
  simp only [Buffer.insertText] at success
  cases inserted : buffer.insertLines (min after buffer.lineCount : Nat) (Text.splitLines text) with
  | error fault =>
      simp only [inserted, bind, Except.bind] at success
      cases success
  | ok middle =>
      have earlier := respect.insertLines (fun buffer => (min after buffer.lineCount : Nat))
        (Text.splitLines text) buffer middle inserted
      simp only [inserted, bind, Except.bind] at success
      split at success
      · cases success
        exact earlier
      · exact respect.trans earlier (respect.setCurrent (fun _ => _) middle result success)

end PrimitivesRespect

theorem primitives_amend : PrimitivesRespect Amended where
  refl := .refl
  trans := .trans
  setCurrent := amends_setCurrent
  insertLines := amends_insertLines
  deleteRange := amends_deleteRange

theorem amends_removeRange (start stop : Nat) :
    Amends fun buffer => buffer.removeRange start stop :=
  primitives_amend.removeRange start stop

theorem amends_removeLines (start stop : Nat) :
    Amends fun buffer => buffer.removeLines start stop :=
  primitives_amend.removeLines start stop

theorem amends_joinLines (start stop : Nat) : Amends fun buffer => buffer.joinLines start stop :=
  primitives_amend.joinLines start stop

theorem amends_moveLines (start stop target : Nat) :
    Amends fun buffer => buffer.moveLines start stop target :=
  primitives_amend.moveLines start stop target

theorem amends_copyLines (start stop target : Nat) :
    Amends fun buffer => buffer.copyLines start stop target :=
  primitives_amend.copyLines start stop target

theorem amends_replaceLines (changes : List (Nat × String)) :
    Amends fun buffer => buffer.replaceLines changes :=
  primitives_amend.replaceLines changes

theorem amends_insertText (after : Nat) (text : String) :
    Amends fun buffer => buffer.insertText after text :=
  primitives_amend.insertText after text

/-! ## The path -/

/-- The path is the same. -/
def SamePath (before after : Buffer) : Prop :=
  after.path? = before.path?

theorem enter_path? (buffer : Buffer) (label : String) :
    (buffer.enter label).path? = buffer.path? := by
  rw [enter]
  split <;> rfl

theorem enter_encoding (buffer : Buffer) (label : String) :
    (buffer.enter label).encoding = buffer.encoding := by
  rw [enter]
  split <;> rfl

theorem commit_samePath (buffer : Buffer) : buffer.SamePath buffer.commit := by
  rw [commit]
  split
  · rfl
  · rfl
  · dsimp only
    split
    · rfl
    · rfl

theorem rollback_samePath (buffer : Buffer) : buffer.SamePath buffer.rollback := by
  rw [rollback]
  split
  · rfl
  · rfl
  · rfl

theorem edit_samePath {change : Buffer → Buffer}
    (keeps : ∀ buffer : Buffer, buffer.SamePath (change buffer))
    (buffer : Buffer) (label : String) : buffer.SamePath (buffer.edit label change) := by
  rw [edit]
  split
  · exact keeps buffer
  · exact (commit_samePath _).trans ((keeps _).trans (buffer.enter_path? label))

/-- **No edit changes the path.** -/
theorem primitives_samePath : PrimitivesRespect SamePath where
  refl _ := rfl
  trans earlier later := Eq.trans later earlier
  setCurrent line := by
    intro buffer after success
    simp only [setCurrent] at success
    split at success
    · cases success
    · cases success
      rfl
  insertLines place lines := by
    intro buffer after success
    simp only [insertLines] at success
    cases checked : buffer.checkLine 0 (place buffer) with
    | error fault => simp [checked, bind, Except.bind] at success
    | ok result =>
        simp only [checked, bind, Except.bind] at success
        split at success
        · cases success
          rfl
        · cases success
          refine edit_samePath ?_ buffer _
          exact fun _ => rfl
  deleteRange start finish := by
    intro buffer after success
    simp only [deleteRange] at success
    cases checked : buffer.checkRange start finish with
    | error fault => simp [checked, bind, Except.bind] at success
    | ok result =>
        simp only [checked, bind, Except.bind] at success
        cases success
        refine edit_samePath ?_ buffer _
        exact fun _ => rfl

/-- Taking a change back does not change the path either. -/
theorem samePath_undo? {before after : Buffer} (undone : before.undo? = some after) :
    before.SamePath after := by
  obtain ⟨popped, -, rfl⟩ := Option.map_eq_some_iff.mp undone
  rfl

/-- Taking a change back is noted as a change. -/
theorem noted_undo? {before after : Buffer} (undone : before.undo? = some after) :
    before.Noted after := by
  obtain ⟨entry, rest, restored⟩ := undo?_restored undone
  exact .of_modified restored.modified

end Buffer

end LineEditor

import LineEditor.Proofs.Buffer.Edits

/-!
# Leaving transactions

A transaction that is opened while none is open remembers the buffer as it was.
Whatever primitive edits are made inside of it, leaving it because of a fault
gives that buffer back (`Buffer.rollback_edited`), and leaving it normally keeps
the edits and adds one entry to the history if there were any
(`Buffer.commit_edited`).

The history is a stack with a limit: a push keeps the latest entries
(`History.entries_push`), so its height stays within the limit
(`History.size_push_le`).  A limit below zero counts as zero.
-/

set_option autoImplicit false

namespace LineEditor

namespace History

/-- A history that is not higher than its limit. -/
def Bounded (history : History) : Prop :=
  (history.size : Int) ≤ max history.limit 0

@[simp] theorem push_limit (history : History) (entry : HistoryEntry) :
    (history.push entry).limit = history.limit := rfl

/-- A push keeps the latest entries, as many as the limit allows. -/
theorem entries_push {history : History} (bounded : history.Bounded) (entry : HistoryEntry) :
    (history.push entry).entries = (entry :: history.entries).take history.limit.toNat := by
  simp only [Bounded, size] at bounded
  by_cases beyond : ((entry :: history.entries).length : Int) > history.limit
  · simp only [push, if_pos beyond, List.dropLast_eq_take]
    rw [List.length_cons] at beyond ⊢
    by_cases negative : history.limit ≤ 0
    · have none : history.entries.length = 0 := by omega
      have zero : history.limit.toNat = 0 := by omega
      simp only [none, zero, Nat.add_sub_cancel]
    · have full : history.entries.length + 1 - 1 = history.limit.toNat := by omega
      rw [full]
  · simp only [push, if_neg beyond]
    rw [List.take_of_length_le]
    omega

theorem size_push_le {history : History} (bounded : history.Bounded) (entry : HistoryEntry) :
    (history.push entry).Bounded := by
  simp only [Bounded, size, entries_push bounded, push_limit, List.length_take]
  omega

/-- As long as there is room for it, an entry makes the history one higher. -/
theorem size_push {history : History} (entry : HistoryEntry)
    (room : (history.size : Int) < history.limit) :
    (history.push entry).size = history.size + 1 := by
  have fits : ¬((entry :: history.entries).length : Int) > history.limit := by
    rw [size] at room
    rw [List.length_cons]
    omega
  rw [push, if_neg fits]
  rfl

theorem Bounded.tail {history : History} (bounded : history.Bounded) {entry : HistoryEntry}
    {rest : List HistoryEntry} (entries : history.entries = entry :: rest) :
    ({ history with entries := rest } : History).Bounded := by
  simp only [Bounded, size, entries, List.length_cons] at bounded ⊢
  omega

end History

namespace Buffer

/-- No transaction is open. -/
structure Closed (buffer : Buffer) : Prop where
  opened : buffer.opened? = none
  depth : buffer.depth = 0

/-- What the transaction that is opened now would remember. -/
def checkpoint (buffer : Buffer) (label : String) : Checkpoint :=
  ⟨label, buffer.document, buffer.current, buffer.modified⟩

/-- The entry that takes the buffer back to how it is now. -/
def entry (buffer : Buffer) (label : String) : HistoryEntry :=
  ⟨label, buffer.lines, buffer.current⟩

theorem enter_closed {buffer : Buffer} (closed : buffer.Closed) (label : String) :
    buffer.enter label = { buffer with opened? := some (buffer.checkpoint label), depth := 0 } := by
  simp only [enter, closed.opened, checkpoint]

@[simp] theorem enter_opened? {buffer : Buffer} (closed : buffer.Closed) (label : String) :
    (buffer.enter label).opened? = some (buffer.checkpoint label) := by
  rw [enter_closed closed]

@[simp] theorem enter_document {buffer : Buffer} (closed : buffer.Closed) (label : String) :
    (buffer.enter label).document = buffer.document := by
  rw [enter_closed closed]

@[simp] theorem enter_placed {buffer : Buffer} (closed : buffer.Closed) (label : String) :
    (buffer.enter label).Placed ↔ buffer.Placed := by
  rw [enter_closed closed]
  rfl

/-- Leaving the outermost transaction normally. -/
theorem commit_outermost {buffer : Buffer} {checkpoint : Checkpoint}
    (opened : buffer.opened? = some checkpoint) (outermost : buffer.depth = 0) :
    buffer.commit =
      { buffer with
        opened? := none
        history :=
          if buffer.document.version = checkpoint.document.version then buffer.history
          else buffer.history.push
            ⟨checkpoint.label, checkpoint.document.lines, checkpoint.current⟩ } := by
  simp only [commit, opened, outermost, changedSince, bne_iff_ne, ne_eq]
  by_cases same : checkpoint.document.version = buffer.document.version
  · rw [if_neg (by simpa using same), if_pos same.symm]
  · rw [if_pos same, if_neg (Ne.symm same)]

/-- Leaving a transaction normally never changes the document. -/
@[simp] theorem commit_document (buffer : Buffer) : buffer.commit.document = buffer.document := by
  rw [commit]
  split
  · rfl
  · rfl
  · dsimp only
    split <;> rfl

/-- Leaving the outermost transaction because of a fault. -/
theorem rollback_outermost {buffer : Buffer} {checkpoint : Checkpoint}
    (opened : buffer.opened? = some checkpoint) (outermost : buffer.depth = 0) :
    buffer.rollback =
      { buffer with
        opened? := none
        document := checkpoint.document
        current := checkpoint.current
        modified := checkpoint.modified } := by
  simp only [rollback, opened, outermost]

/-- A buffer comes from another one by a transaction of so many primitive edits, which is one step
of the history unless there are none. -/
structure Committed (label : String) (count : Nat) (before after : Buffer) : Prop where
  document : Document.EditedBy count before.document after.document
  history : after.history =
    if 0 < count then before.history.push (before.entry label) else before.history
  placed : before.Placed → after.Placed
  closed : after.Closed

section Entered

variable {buffer after : Buffer} (closed : buffer.Closed) {label : String} {count : Nat}
  (edited : (buffer.enter label).Edited count after)
include closed edited

theorem Edited.opened_entered : after.opened? = some (buffer.checkpoint label) := by
  rw [edited.opened, enter_opened? closed]

theorem Edited.depth_entered : after.depth = 0 := by
  rw [edited.depth, enter_closed closed]

/-- **A transaction that is left because of a fault has not happened.** -/
theorem rollback_edited : after.rollback = buffer := by
  rw [rollback_outermost (edited.opened_entered closed) (edited.depth_entered closed)]
  have history := edited.history
  have path := edited.path
  have name := edited.name
  have encoding := edited.encoding
  have depth := edited.depth_entered closed
  rw [enter_closed closed] at history path name encoding
  obtain ⟨opened, outer⟩ := closed
  cases buffer
  simp_all [checkpoint]

/-- **A transaction that is left normally is one step of the history**, if there were edits in
it. -/
theorem commit_edited :
    after.commit =
      { after with
        opened? := none
        history :=
          if 0 < count then buffer.history.push (buffer.entry label) else buffer.history } := by
  have version := edited.document.version_eq
  have history := edited.history
  rw [enter_closed closed] at version history
  rw [commit_outermost (edited.opened_entered closed) (edited.depth_entered closed)]
  simp only [checkpoint, entry, version, history, Buffer.lines]
  by_cases some : 0 < count
  · rw [if_neg (by omega), if_pos some]
  · rw [if_pos (by omega), if_neg some]

theorem Edited.committed : buffer.Committed label count after.commit := by
  have document := edited.document
  have placed := edited.placed
  rw [enter_placed closed] at placed
  rw [enter_closed closed] at document
  have depth := edited.depth_entered closed
  rw [commit_edited closed edited]
  exact ⟨document, rfl, placed, rfl, depth⟩

end Entered

theorem Committed.bounded {buffer after : Buffer} {label : String} {count : Nat}
    (committed : buffer.Committed label count after) (bounded : buffer.history.Bounded) :
    after.history.Bounded := by
  rw [committed.history]
  split
  · exact History.size_push_le bounded _
  · exact bounded

/-! ## Undo -/

/-- Going back to the latest entry of the history. -/
theorem undo?_entries {buffer : Buffer} {entry : HistoryEntry} {rest : List HistoryEntry}
    (entries : buffer.history.entries = entry :: rest) :
    buffer.undo? = some
      ({ buffer with
          history := { buffer.history with entries := rest }
          document := buffer.document.replace entry.lines
          modified := true
          current := entry.current } : Buffer).clampCurrent := by
  simp only [undo?, History.pop?, entries, Option.map_some]
  rfl

theorem undo?_empty {buffer : Buffer} (entries : buffer.history.entries = []) :
    buffer.undo? = none := by
  simp only [undo?, History.pop?, entries, Option.map_none]

/-- A buffer has gone back to an entry of its history, above the remaining ones. -/
structure Restored (entry : HistoryEntry) (rest : List HistoryEntry) (before after : Buffer) :
    Prop where
  entries : before.history.entries = entry :: rest
  history : after.history = { before.history with entries := rest }
  lines : after.lines = entry.lines
  current : after.current = max 1 (min entry.current (max entry.lines.length 1))
  modified : after.modified = true
  opened : after.opened? = before.opened?
  depth : after.depth = before.depth

/-- Undo goes back to the latest entry of the history. -/
theorem undo?_restored {before after : Buffer} (undone : before.undo? = some after) :
    ∃ entry rest, Restored entry rest before after := by
  cases entries : before.history.entries with
  | nil =>
      rw [undo?_empty entries] at undone
      cases undone
  | cons entry rest =>
      rw [undo?_entries entries] at undone
      obtain rfl := Option.some.inj undone
      exact ⟨entry, rest, entries, rfl, rfl, rfl, rfl, rfl, rfl⟩

theorem Restored.placed {entry : HistoryEntry} {rest : List HistoryEntry} {before after : Buffer}
    (restored : Restored entry rest before after) : after.Placed := by
  have size : after.lineCount = entry.lines.length := congrArg List.length restored.lines
  simp only [Placed, restored.current, lastLine, size]
  omega

end Buffer

end LineEditor

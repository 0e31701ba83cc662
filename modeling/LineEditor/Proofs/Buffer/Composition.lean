import LineEditor.Buffer.Edit
import LineEditor.Proofs.Buffer.Blocks
import LineEditor.Proofs.Buffer.Edits

/-!
# Composed edits succeed

The edits that commands make are composed of primitives, and each primitive
fails when a line number is out of range.  Inside a transaction, and for a range
of lines that can be addressed, none of them fails: every composed edit is a
number of primitive edits with a known result (`Buffer.removeRange_within`,
`Buffer.joinLines_within`, `Buffer.moveLines_within`, `Buffer.copyLines_within`,
`Buffer.replaceLines_within`, `Buffer.insertText_within`).

An empty buffer is addressed as one line, so the ranges in question reach up to
`Buffer.lastLine`, and the edits that need lines to work on ask for them.
-/

set_option autoImplicit false

namespace LineEditor.Buffer

/-! ## Lists of lines -/

/-- The number of lines when some are put in behind a place. -/
theorem length_with (lines : List String) {place : Nat} (within : place ≤ lines.length)
    (more : List String) :
    (lines.take place ++ more ++ lines.drop place).length = lines.length + more.length := by
  simp only [List.length_append, List.length_take, List.length_drop]
  omega

/-- The number of lines left when a range is taken out. -/
theorem length_without (lines : List String) {start stop : Nat} (first : 1 ≤ start)
    (ordered : start ≤ stop) (within : stop ≤ lines.length) :
    (lines.take (start - 1) ++ lines.drop stop).length + (stop + 1 - start) = lines.length := by
  simp only [List.length_append, List.length_take, List.length_drop]
  omega

/-- The number of lines in a range. -/
theorem length_range (lines : List String) {start stop : Nat} (first : 1 ≤ start)
    (ordered : start ≤ stop) (within : stop ≤ lines.length) :
    ((lines.take stop).drop (start - 1)).length = stop + 1 - start := by
  simp only [List.length_take, List.length_drop]
  omega

section Opened

variable {buffer : Buffer} (opened : buffer.opened?.isSome)
include opened

/-- Inserting any lines, none included. -/
theorem insertLines_within {place : Nat} (within : place ≤ buffer.lineCount)
    (lines : List String) :
    ∃ after, buffer.insertLines place lines = .ok after ∧
      buffer.Edited (if lines.isEmpty then 0 else 1) after ∧
      after.lines = buffer.lines.take place ++ lines ++ buffer.lines.drop place ∧
      after.lineCount = buffer.lineCount + lines.length := by
  cases lines with
  | nil =>
      refine ⟨buffer, ?_, .refl buffer, by simp, rfl⟩
      rw [insertLines, checkLine, if_neg (by omega)]
      rfl
  | cons line rest =>
      have count := length_with buffer.lines within (line :: rest)
      exact ⟨_, insertLines_opened opened within (by simp), edited_insert buffer within (by simp),
        rfl, count⟩

/-- Inserting lines behind a place and going to the last of them. -/
theorem insertLines_setCurrent {place : Nat} (within : place ≤ buffer.lineCount)
    {lines : List String} (nonempty : lines ≠ []) :
    ∃ after, (buffer.insertLines place lines >>= fun inserted =>
        inserted.setCurrent ((place + lines.length : Nat) : Int)) = .ok after ∧
      buffer.Edited 1 after ∧
      after.lines = buffer.lines.take place ++ lines ++ buffer.lines.drop place ∧
      after.current = place + lines.length := by
  obtain ⟨inserted, success, edited, inside, count⟩ := insertLines_within opened within lines
  have positive : 0 < lines.length := List.length_pos_iff.mpr nonempty
  have room : place + lines.length ≤ inserted.lastLine := by
    simp only [lastLine, count]
    omega
  have isNonempty : lines.isEmpty = false := by simpa using nonempty
  rw [if_neg (by simp [isNonempty])] at edited
  refine ⟨{ inserted with current := place + lines.length }, ?_,
    edited.trans (edited_current inserted (by omega) room), inside, rfl⟩
  rw [success]
  exact setCurrent_placed inserted (by omega) room

/-- Deleting a range of lines that are there. -/
theorem deleteRange_within {start stop : Nat} (first : 1 ≤ start) (ordered : start ≤ stop)
    (within : stop ≤ buffer.lineCount) :
    ∃ after, buffer.deleteRange start stop = .ok after ∧ buffer.Edited 1 after ∧
      after.lines = buffer.lines.take (start - 1) ++ buffer.lines.drop stop ∧
      after.lineCount + (stop + 1 - start) = buffer.lineCount ∧ after.opened?.isSome := by
  have left := length_without buffer.lines first ordered within
  exact ⟨_, deleteRange_opened opened first ordered within,
    edited_delete buffer first ordered within, rfl, left, opened⟩

/-- Deleting a range that can be addressed; an empty buffer stays as it is. -/
theorem removeRange_within {start stop : Nat} (first : 1 ≤ start) (ordered : start ≤ stop)
    (within : stop ≤ buffer.lastLine) :
    ∃ after, buffer.removeRange start stop = .ok after ∧
      buffer.Edited (if buffer.lineCount = 0 then 0 else 1) after ∧
      after.lines = buffer.lines.take (start - 1) ++ buffer.lines.drop stop := by
  by_cases empty : buffer.lineCount = 0
  · refine ⟨buffer, by rw [removeRange, if_pos empty],
      by simpa [empty] using Edited.refl buffer, ?_⟩
    have none : buffer.lines = [] := List.length_eq_zero_iff.mp empty
    simp [none]
  · obtain ⟨removed, success, edited, lines, -⟩ :=
      deleteRange_within opened first ordered (le_lineCount empty within)
    refine ⟨removed, ?_, by simpa [empty] using edited, lines⟩
    rw [removeRange, if_neg empty, success]

/-- Deleting a range and going to the line that follows. -/
theorem removeLines_within {start stop : Nat} (first : 1 ≤ start) (ordered : start ≤ stop)
    (within : stop ≤ buffer.lastLine) :
    ∃ after, buffer.removeLines start stop = .ok after ∧
      buffer.Edited (if buffer.lineCount = 0 then 0 else 1) after ∧
      after.lines = buffer.lines.take (start - 1) ++ buffer.lines.drop stop ∧
      after.current = max 1 (min start after.lineCount) := by
  obtain ⟨removed, success, edited, inside⟩ := removeRange_within opened first ordered within
  have room : max 1 (min start removed.lineCount) ≤ removed.lastLine := by
    simp only [lastLine]
    omega
  have target : max 1 (min (start : Int) removed.lineCount) =
      ((max 1 (min start removed.lineCount) : Nat) : Int) := by omega
  refine ⟨_, ?_, edited.trans (edited_current removed (by omega) room), inside, rfl⟩
  rw [removeLines, success]
  simp only [bind, Except.bind, target]
  exact setCurrent_placed removed (by omega) room

/-- Joining a range of at least two lines. -/
theorem joinLines_within {start stop : Nat} (first : 1 ≤ start) (several : start < stop)
    (within : stop ≤ buffer.lineCount) :
    ∃ after, buffer.joinLines start stop = .ok after ∧ buffer.Edited 2 after ∧
      after.lines = buffer.lines.take (start - 1) ++
        [String.join ((buffer.lines.take stop).drop (start - 1))] ++ buffer.lines.drop stop ∧
      after.current = start := by
  have ordered : start ≤ stop := by omega
  obtain ⟨removed, deleted, shorter, removedLines, left, stillOpened⟩ :=
    deleteRange_within opened first ordered within
  obtain ⟨after, success, edited, inside, current⟩ := insertLines_setCurrent stillOpened
    (show start - 1 ≤ removed.lineCount by omega)
    (List.cons_ne_nil (String.join ((buffer.lines.take stop).drop (start - 1))) [])
  refine ⟨after, ?_, shorter.trans edited, ?_, ?_⟩
  · rw [joinLines, readRange_within buffer first ordered within]
    have index : (start : Int) - 1 = ((start - 1 : Nat) : Int) := by omega
    have target : start - 1 + 1 = start := by omega
    simp only [List.length_singleton, target] at success
    simp only [bind, Except.bind, index, deleted] at success ⊢
    exact success
  · have prefixLength : (buffer.lines.take (start - 1)).length = start - 1 :=
      List.length_take_of_le (show start - 1 ≤ buffer.lineCount by omega)
    rw [inside, removedLines, List.take_left' prefixLength, List.drop_left' prefixLength]
  · rw [current, List.length_singleton]
    omega

/-- Moving a range behind a line that is not one of its own, its last one apart. -/
theorem moveLines_within {start stop target : Nat} (first : 1 ≤ start) (ordered : start ≤ stop)
    (within : stop ≤ buffer.lineCount) (there : target ≤ buffer.lineCount)
    (outside : ¬(start ≤ target ∧ target < stop)) :
    ∃ after, buffer.moveLines start stop target = .ok after ∧ buffer.Edited 2 after ∧
      after.lines = Lines.moved buffer.lines start stop target ∧
      after.current =
        (Lines.outside (buffer.lines.take target) start stop).length + (stop + 1 - start) := by
  have size : (Lines.block buffer.lines start stop).length = stop + 1 - start :=
    length_range buffer.lines first ordered within
  obtain ⟨removed, deleted, shorter, removedLines, left, stillOpened⟩ :=
    deleteRange_within opened first ordered within
  have split := @Lines.outside_parted buffer.lines start stop target first ordered within there
    outside
  rw [← size] at split
  obtain ⟨parted, frontSize⟩ := split
  let place := if target ≥ stop then target - (Lines.block buffer.lines start stop).length
    else target
  have fits : place ≤ removed.lineCount := by
    simp only [place, size]
    split <;> omega
  have nonempty : Lines.block buffer.lines start stop ≠ [] := by
    intro none
    have := congrArg List.length none
    simp only [size, List.length_nil] at this
    omega
  obtain ⟨after, success, edited, inside, current⟩ :=
    insertLines_setCurrent stillOpened fits nonempty
  refine ⟨after, ?_, shorter.trans edited, ?_, ?_⟩
  · rw [moveLines, readRange_within buffer first ordered within]
    simp only [bind, Except.bind, deleted] at success ⊢
    push_cast at success
    exact success
  · rw [inside, removedLines, Lines.moved, frontSize, ← parted]
    rfl
  · rw [current, frontSize, ← size]

/-- Copying a range behind a line. -/
theorem copyLines_within {start stop target : Nat} (first : 1 ≤ start) (ordered : start ≤ stop)
    (within : stop ≤ buffer.lineCount) (there : target ≤ buffer.lineCount) :
    ∃ after, buffer.copyLines start stop target = .ok after ∧ buffer.Edited 1 after ∧
      after.lines = Lines.copied buffer.lines start stop target ∧
      after.current = target + (stop + 1 - start) := by
  have size : (Lines.block buffer.lines start stop).length = stop + 1 - start :=
    length_range buffer.lines first ordered within
  have nonempty : Lines.block buffer.lines start stop ≠ [] := by
    intro none
    have := congrArg List.length none
    simp only [size, List.length_nil] at this
    omega
  obtain ⟨after, success, edited, inside, current⟩ := insertLines_setCurrent opened there nonempty
  refine ⟨after, ?_, edited, inside, ?_⟩
  · rw [copyLines, readRange_within buffer first ordered within]
    simp only [bind, Except.bind] at success ⊢
    push_cast at success
    exact success
  · rw [current, size]

/-- Inserting the lines of a text behind a line; if there are any, the last one of them is the
current line then. -/
theorem insertText_within (after : Nat) (text : String) :
    ∃ inserted, buffer.insertText after text = .ok inserted ∧
      buffer.Edited (if (Text.splitLines text).isEmpty then 0 else 1) inserted ∧
      inserted.lines = buffer.lines.take (min after buffer.lineCount) ++ Text.splitLines text ++
        buffer.lines.drop (min after buffer.lineCount) ∧
      (Text.splitLines text ≠ [] →
        inserted.current = min after buffer.lineCount + (Text.splitLines text).length) := by
  have within : min after buffer.lineCount ≤ buffer.lineCount := Nat.min_le_right _ _
  by_cases none : (Text.splitLines text).isEmpty
  · obtain ⟨inserted, success, edited, lines, -⟩ :=
      insertLines_within opened within (Text.splitLines text)
    refine ⟨inserted, ?_, edited, lines, fun some => absurd (List.isEmpty_iff.mp none) some⟩
    rw [insertText, success]
    simp only [bind, Except.bind, none]
    rfl
  · have nonempty : Text.splitLines text ≠ [] := by simpa using none
    obtain ⟨inserted, success, edited, lines, current⟩ :=
      insertLines_setCurrent opened within nonempty
    refine ⟨inserted, ?_, by simpa [none] using edited, lines, fun _ => current⟩
    rw [insertText]
    simp only [bind, Except.bind, none] at success ⊢
    push_cast at success ⊢
    exact success

end Opened

/-! ## Replacing lines one by one -/

/-- Replacing one line. -/
theorem replaceLine_within {buffer : Buffer} (opened : buffer.opened?.isSome) {number : Nat}
    (first : 1 ≤ number) (within : number ≤ buffer.lineCount) (line : String) :
    ∃ after, buffer.replaceLine number line = .ok after ∧ buffer.Edited 2 after ∧
      after.lines = buffer.lines.set (number - 1) line := by
  obtain ⟨removed, deleted, shorter, removedLines, left, stillOpened⟩ :=
    deleteRange_within opened first (Nat.le_refl number) within
  obtain ⟨after, success, edited, inside, -⟩ := insertLines_within stillOpened
    (show number - 1 ≤ removed.lineCount by omega) [line]
  refine ⟨after, ?_, shorter.trans edited, ?_⟩
  · rw [replaceLine, deleted]
    have index : (number : Int) - 1 = ((number - 1 : Nat) : Int) := by omega
    simp only [bind, Except.bind, index]
    exact success
  · have there : number - 1 < buffer.lines.length :=
      show number - 1 < buffer.lineCount by omega
    have next : number - 1 + 1 = number := by omega
    have prefixLength : (buffer.lines.take (number - 1)).length = number - 1 :=
      List.length_take_of_le (by omega)
    rw [inside, removedLines, List.take_left' prefixLength, List.drop_left' prefixLength,
      List.set_eq_take_append_cons_drop, if_pos there, next]
    simp

/-- The lines when some are replaced one after the other. -/
def replaced (changes : List (Nat × String)) (lines : List String) : List String :=
  changes.foldl (fun lines change => lines.set (change.1 - 1) change.2) lines

/-- Replacing lines one after the other.  Every replacement keeps the number of lines, so all the
numbers stay in range. -/
theorem replaceLines_within (changes : List (Nat × String)) :
    ∀ {buffer : Buffer}, buffer.opened?.isSome →
      (∀ change ∈ changes, 1 ≤ change.1 ∧ change.1 ≤ buffer.lineCount) →
      ∃ after, buffer.replaceLines changes = .ok after ∧ buffer.Edited (2 * changes.length) after ∧
        after.lines = replaced changes buffer.lines ∧ after.lineCount = buffer.lineCount := by
  induction changes with
  | nil => exact fun _ _ => ⟨_, rfl, .refl _, rfl, rfl⟩
  | cons change rest ih =>
      intro buffer opened inRange
      obtain ⟨first, within⟩ := inRange change List.mem_cons_self
      obtain ⟨middle, success, edited, lines⟩ :=
        replaceLine_within opened first within change.2
      have count : middle.lineCount = buffer.lineCount :=
        (congrArg List.length lines).trans List.length_set
      have stillOpened : middle.opened?.isSome := by rwa [edited.opened]
      obtain ⟨after, others, editedMore, linesMore, countMore⟩ :=
        ih stillOpened fun other member => by
          rw [count]
          exact inRange other (List.mem_cons_of_mem _ member)
      refine ⟨after, ?_, ?_, ?_, countMore.trans count⟩
      · rw [replaceLines, success]
        exact others
      · have total : 2 + 2 * rest.length = 2 * (change :: rest).length := by
          rw [List.length_cons]
          omega
        exact total ▸ edited.trans editedMore
      · rw [linesMore, lines]
        rfl

end LineEditor.Buffer

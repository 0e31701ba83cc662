import LineEditor.Buffer.Transaction

/-!
# Primitive edits

All changes of a document go back to two primitive edits: lines are inserted
behind a place, or a range of lines is deleted.  `Document.EditedBy` counts the
primitive edits that lead from one document to another, and the version of a
document counts along (`Document.EditedBy.version_eq`), so two documents that
differ by edits differ in their versions.

Inside an open transaction the primitives of a buffer do nothing but that: they
edit the document, move the current line and note that there are changes.
`Buffer.Edited` says so for any number of them, and `Buffer.insertLines_opened`,
`Buffer.deleteRange_opened` and `Buffer.setCurrent_placed` give their results
where the line numbers are in range.
-/

set_option autoImplicit false

namespace LineEditor

/-! ## Documents -/

namespace Document

/-- A document comes from another one by a number of primitive edits. -/
inductive EditedBy : Nat → Document → Document → Prop where
  | unchanged (document : Document) : EditedBy 0 document document
  | insert {count : Nat} {before middle : Document} (earlier : EditedBy count before middle)
      (place : Nat) (within : place ≤ middle.lineCount) (lines : List String)
      (nonempty : lines ≠ []) :
      EditedBy (count + 1) before
        (middle.replace (middle.lines.take place ++ lines ++ middle.lines.drop place))
  | delete {count : Nat} {before middle : Document} (earlier : EditedBy count before middle)
      (start stop : Nat) (first : 1 ≤ start) (ordered : start ≤ stop)
      (within : stop ≤ middle.lineCount) :
      EditedBy (count + 1) before
        (middle.replace (middle.lines.take (start - 1) ++ middle.lines.drop stop))

theorem EditedBy.trans {first second : Nat} {before middle after : Document}
    (earlier : EditedBy first before middle) (later : EditedBy second middle after) :
    EditedBy (first + second) before after := by
  induction later with
  | unchanged => exact earlier
  | insert _ place within lines nonempty ih =>
      exact .insert (ih earlier) place within lines nonempty
  | delete _ start stop first ordered within ih =>
      exact .delete (ih earlier) start stop first ordered within

/-- Every primitive edit raises the version by one. -/
theorem EditedBy.version_eq {count : Nat} {before after : Document}
    (edited : EditedBy count before after) : after.version = before.version + count := by
  induction edited with
  | unchanged => rfl
  | insert _ _ _ _ _ ih => simp only [replace, ih, Nat.add_assoc]
  | delete _ _ _ _ _ _ ih => simp only [replace, ih, Nat.add_assoc]

/-- A cut inside of the document is where it says. -/
theorem cut_of_le (document : Document) {position : Nat} (within : position ≤ document.lineCount) :
    document.cut position = position := by
  simp only [cut]
  omega

/-- Updating between equal cuts inserts lines. -/
theorem update_insert (document : Document) {place : Nat} (within : place ≤ document.lineCount)
    (lines : List String) :
    document.update place place lines =
      document.replace (document.lines.take place ++ lines ++ document.lines.drop place) := by
  simp only [update, cut_of_le document within, Nat.max_self]

/-- Updating with no lines deletes what lies between the cuts. -/
theorem update_delete (document : Document) {start stop : Nat} (first : 1 ≤ start)
    (ordered : start ≤ stop) (within : stop ≤ document.lineCount) :
    document.update ((start : Int) - 1) stop [] =
      document.replace (document.lines.take (start - 1) ++ document.lines.drop stop) := by
  have startCut : document.cut ((start : Int) - 1) = start - 1 := by
    rw [show (start : Int) - 1 = ((start - 1 : Nat) : Int) by omega]
    exact cut_of_le document (by omega)
  have last : max (start - 1) stop = stop := by omega
  simp only [update, startCut, cut_of_le document within, last, List.append_nil]

@[simp] theorem replace_lines (document : Document) (lines : List String) :
    (document.replace lines).lines = lines := rfl

end Document

/-! ## Buffers inside a transaction -/

namespace Buffer

/-- The current line is one that can be addressed. -/
def Placed (buffer : Buffer) : Prop :=
  1 ≤ buffer.current ∧ buffer.current ≤ buffer.lastLine

/-- In a buffer with lines, none but those can be addressed. -/
theorem le_lineCount {buffer : Buffer} (nonempty : buffer.lineCount ≠ 0) {line : Nat}
    (within : line ≤ buffer.lastLine) : line ≤ buffer.lineCount := by
  simp only [lastLine] at within
  omega

/-- A buffer comes from another one by a number of primitive edits, with moves of the current line
among them.  What belongs to transactions, to the history and to the file stays as it is. -/
structure Edited (count : Nat) (before after : Buffer) : Prop where
  document : Document.EditedBy count before.document after.document
  modified : after.modified = (before.modified || decide (0 < count))
  placed : before.Placed → after.Placed
  opened : after.opened? = before.opened?
  depth : after.depth = before.depth
  history : after.history = before.history
  path : after.path? = before.path?
  name : after.name = before.name
  encoding : after.encoding = before.encoding

theorem Edited.refl (buffer : Buffer) : Edited 0 buffer buffer where
  document := .unchanged _
  modified := by simp
  placed := id
  opened := rfl
  depth := rfl
  history := rfl
  path := rfl
  name := rfl
  encoding := rfl

theorem Edited.trans {first second : Nat} {before middle after : Buffer}
    (earlier : Edited first before middle) (later : Edited second middle after) :
    Edited (first + second) before after where
  document := earlier.document.trans later.document
  modified := by
    rw [later.modified, earlier.modified, Bool.or_assoc, ← Bool.decide_or]
    congr 2
    exact propext (by omega)
  placed := later.placed ∘ earlier.placed
  opened := later.opened.trans earlier.opened
  depth := later.depth.trans earlier.depth
  history := later.history.trans earlier.history
  path := later.path.trans earlier.path
  name := later.name.trans earlier.name
  encoding := later.encoding.trans earlier.encoding

/-! ## The primitives -/

theorem clampCurrent_placed (buffer : Buffer) : buffer.clampCurrent.Placed := by
  simp only [Placed, clampCurrent, lastLine, lineCount]
  omega

/-- Going to a line that can be addressed. -/
theorem setCurrent_placed (buffer : Buffer) {line : Nat} (first : 1 ≤ line)
    (within : line ≤ buffer.lastLine) :
    buffer.setCurrent line = .ok { buffer with current := line } := by
  rw [setCurrent, if_neg (by omega)]
  rfl

theorem edited_current (buffer : Buffer) {line : Nat} (first : 1 ≤ line)
    (within : line ≤ buffer.lastLine) : Edited 0 buffer { buffer with current := line } :=
  { Edited.refl buffer with placed := fun _ => ⟨first, within⟩ }

/-- Reading a range of lines that are there. -/
theorem readRange_within (buffer : Buffer) {start stop : Nat} (first : 1 ≤ start)
    (ordered : start ≤ stop) (within : stop ≤ buffer.lineCount) :
    buffer.readRange start stop = .ok ((buffer.lines.take stop).drop (start - 1)) := by
  have index : ((start : Int) - 1).toNat = start - 1 := by omega
  rw [readRange, if_neg (by omega), checkRange, checkLine, if_neg (by omega), checkLine,
    if_neg (by omega)]
  simp only [bind, Except.bind, pure, Except.pure, Int.toNat_natCast, index]
  rw [if_neg (by omega)]

/-- Reading from an empty buffer. -/
theorem readRange_empty (buffer : Buffer) (empty : buffer.lineCount = 0) (start stop : Int) :
    buffer.readRange start stop = .ok [] := by
  rw [readRange, if_pos empty]

/-- Lines that can be addressed can be read. -/
theorem readRange_addressed (buffer : Buffer) {start stop : Nat} (first : 1 ≤ start)
    (ordered : start ≤ stop) (within : stop ≤ buffer.lastLine) :
    ∃ lines, buffer.readRange start stop = .ok lines := by
  by_cases empty : buffer.lineCount = 0
  · exact ⟨_, buffer.readRange_empty empty start stop⟩
  · exact ⟨_, buffer.readRange_within first ordered (le_lineCount empty within)⟩

section Opened

variable {buffer : Buffer} (opened : buffer.opened?.isSome)
include opened

theorem edit_opened (label : String) (change : Buffer → Buffer) :
    buffer.edit label change = change buffer := by
  obtain ⟨checkpoint, isOpen⟩ := Option.isSome_iff_exists.mp opened
  simp only [edit, isOpen]

/-- Inserting lines behind a line that is there. -/
theorem insertLines_opened {place : Nat} (within : place ≤ buffer.lineCount)
    {lines : List String} (nonempty : lines ≠ []) :
    buffer.insertLines place lines =
      .ok (buffer.apply (buffer.document.replace
        (buffer.lines.take place ++ lines ++ buffer.lines.drop place))) := by
  have isNonempty : lines.isEmpty = false := by simpa using nonempty
  simp only [insertLines, checkLine, edit_opened opened, isNonempty]
  rw [if_neg (by omega), Document.update_insert buffer.document within]
  rfl

/-- Deleting a range of lines that are there. -/
theorem deleteRange_opened {start stop : Nat} (first : 1 ≤ start) (ordered : start ≤ stop)
    (within : stop ≤ buffer.lineCount) :
    buffer.deleteRange start stop =
      .ok (buffer.apply (buffer.document.replace
        (buffer.lines.take (start - 1) ++ buffer.lines.drop stop))).clampCurrent := by
  simp only [deleteRange, checkRange, checkLine, edit_opened opened]
  rw [if_neg (by omega), if_neg (by omega),
    Document.update_delete buffer.document first ordered within]
  simp only [bind, Except.bind]
  rw [if_neg (by omega)]
  rfl

end Opened

theorem edited_insert (buffer : Buffer) {place : Nat} (within : place ≤ buffer.lineCount)
    {lines : List String} (nonempty : lines ≠ []) :
    Edited 1 buffer (buffer.apply (buffer.document.replace
      (buffer.lines.take place ++ lines ++ buffer.lines.drop place))) :=
  { Edited.refl buffer with
    document := .insert (.unchanged _) place within lines nonempty
    modified := by simp [apply]
    placed := by
      intro placed
      have := placed.1
      have := placed.2
      simp only [Placed, apply, lastLine, lineCount, Document.lineCount, Buffer.lines,
        Document.replace_lines, List.length_append, List.length_take, List.length_drop] at *
      omega }

theorem edited_delete (buffer : Buffer) {start stop : Nat} (first : 1 ≤ start)
    (ordered : start ≤ stop) (within : stop ≤ buffer.lineCount) :
    Edited 1 buffer (buffer.apply (buffer.document.replace
      (buffer.lines.take (start - 1) ++ buffer.lines.drop stop))).clampCurrent :=
  { Edited.refl buffer with
    document := .delete (.unchanged _) start stop first ordered within
    modified := by simp [apply, clampCurrent]
    placed := fun _ => clampCurrent_placed _ }

end Buffer

end LineEditor

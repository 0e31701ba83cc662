import LineEditor.Proofs.Editor.Reachable

/-!
# The stack of changes

A bounded stack kept beside an editor, of the states before each change.  A
completed command that has made primitive edits pushes the state before it, and
so does a completed text entry together with the command that opened it; a
completed command to undo pops; a line that fails does nothing
(`UndoStack.advance`).  How many primitive edits a line has made is read off the
version of the document, which counts them (`Editor.edits_next`).

The history of the buffer is that stack after any run
(`UndoStack.Tracks.run`).  Between the opening and the end of a text, the stack
knows the state before the opening, from which the buffer comes by the edits of
the transaction that is still open (`UndoStack.Tracks`).
-/

set_option autoImplicit false

namespace LineEditor

/-- The lines and the current line. -/
structure Snapshot where
  lines : List String
  current : Nat
  deriving DecidableEq

/-- The lines and the current line of a buffer. -/
def Buffer.snapshot (buffer : Buffer) : Snapshot :=
  ⟨buffer.lines, buffer.current⟩

/-- The lines and the current line that an entry goes back to. -/
def HistoryEntry.snapshot (entry : HistoryEntry) : Snapshot :=
  ⟨entry.lines, entry.current⟩

/-- The number of changes that can be taken back. -/
def undoLimit : Nat := 256

/-- The states before the changes, the latest first.  While text is being entered, `opened?` holds
the state before the command that opened it, and the version of the document then. -/
structure UndoStack where
  entries : List Snapshot := []
  opened? : Option (Snapshot × Nat) := none
  deriving DecidableEq

namespace Editor

/-- The number of primitive edits from one state to a later one. -/
def editsBetween (before after : Editor) : Nat :=
  after.buffer.document.version - before.buffer.document.version

/-- Whether a line is completed: the session goes on and the answer is not an error. -/
def completes (before : Editor) : Except Fault Output → Bool
  | .ok output => !before.session.ended && output.kind != .error
  | .error _ => false

/-- Whether a line asks to take the last change back. -/
def asksUndo (raw : String) : Bool :=
  (CommandLine.scan (withoutLineEnd raw)).letter? == some undoLetter

end Editor

namespace UndoStack

/-- Takes note of a change, unless nothing was edited; the oldest state falls off past the limit. -/
def record (stack : UndoStack) (edits : Nat) (before : Snapshot) : UndoStack :=
  if 0 < edits then { stack with entries := (before :: stack.entries).take undoLimit } else stack

/-- The stack after a line. -/
def advance (stack : UndoStack) (before after : Editor) (raw : String)
    (outcome : Except Fault Output) : UndoStack :=
  match before.session.mode, after.session.mode with
  | .command, .command =>
    if !before.completes outcome then stack
    else if Editor.asksUndo raw then { stack with entries := stack.entries.tail }
    else stack.record (before.editsBetween after) before.buffer.snapshot
  | .command, .text =>
    { stack with opened? := some (before.buffer.snapshot, before.buffer.document.version) }
  | .text, .text => stack
  | .text, .command =>
    match stack.opened? with
    | some (snapshot, version) =>
      { stack with opened? := none }.record (after.buffer.document.version - version) snapshot
    | none => stack

/-- The stack after a line that is submitted to an editor. -/
def next (stack : UndoStack) (editor : Editor) (raw : String) : UndoStack :=
  stack.advance editor (editor.next raw) raw (editor.answer raw)

/-- The stack after a sequence of lines. -/
def run (stack : UndoStack) (editor : Editor) : List String → UndoStack
  | [] => stack
  | raw :: rest => (stack.next editor raw).run (editor.next raw) rest

end UndoStack

/-! ## Edits -/

/-- The version tells the number of primitive edits. -/
theorem Document.EditedBy.counted {count : Nat} {before after : Document}
    (edited : EditedBy count before after) :
    EditedBy (after.version - before.version) before after := by
  have same : after.version - before.version = count := by
    rw [edited.version_eq]
    omega
  rwa [same]

namespace Editor

variable {editor : Editor} {raw : String}

/-- A command line that does not ask for an undo edits the document. -/
theorem CommandStep.edited {after : Editor} {outcome : Except Fault Output}
    (step : editor.CommandStep (withoutLineEnd raw) outcome after)
    (closed : editor.buffer.Closed) (other : asksUndo raw = false) :
    ∃ count, Document.EditedBy count editor.buffer.document after.buffer.document := by
  cases step with
  | refused steady => exact ⟨0, steady.buffer ▸ .unchanged _⟩
  | escaped steady => exact ⟨0, steady.buffer ▸ .unchanged _⟩
  | consulted kept otherLetter buffer => exact ⟨0, buffer.document ▸ .unchanged _⟩
  | committed kept otherLetter buffer =>
      obtain ⟨label, count, committed⟩ := buffer
      exact ⟨count, committed.document⟩
  | opened kept otherLetter buffer =>
      obtain ⟨label, count, edited⟩ := buffer
      exact ⟨count, Buffer.enter_document closed label ▸ edited.document⟩
  | undone kept same => simp [asksUndo, same] at other

/-- Every line makes as many primitive edits as the version says, unless it takes a change back. -/
theorem Sound.edits_next (sound : editor.Sound)
    (other : editor.session.mode = .command → asksUndo raw = false) :
    Document.EditedBy (editor.editsBetween (editor.next raw)) editor.buffer.document
      (editor.next raw).buffer.document := by
  cases sound with
  | command ready bounded =>
      cases ended : editor.session.ended with
      | true =>
          rw [editsBetween, (submit_ended ended raw).2]
          exact (Document.EditedBy.unchanged _).counted
      | false =>
          obtain ⟨count, edited⟩ := (ready.step ended raw).edited ready.closed (other ready.mode)
          exact edited.counted
  | text ready registry fresh edited =>
      cases (ready.step raw).2 with
      | entered otherText kept buffer => exact buffer.document.counted
      | closed ends kept buffer committed =>
          rw [editsBetween, committed, Buffer.commit_document]
          exact buffer.document.counted

end Editor

/-! ## Tracking -/

/-- A history is recorded by a stack: the entries are the same, and each of them goes back to a line
that can be addressed. -/
structure History.RecordedBy (history : History) (entries : List Snapshot) : Prop where
  limit : history.limit = undoLimit
  entries : history.entries.map HistoryEntry.snapshot = entries
  placed : ∀ entry ∈ history.entries, 1 ≤ entry.current ∧ entry.current ≤ max entry.lines.length 1

/-- The stack after a transaction records the history after it. -/
theorem Buffer.Committed.recorded {before after : Buffer} {label : String} {count : Nat}
    (committed : before.Committed label count after) (fresh : before.Fresh) {stack : UndoStack}
    (recorded : before.history.RecordedBy stack.entries) :
    after.history.RecordedBy (stack.record count before.snapshot).entries := by
  rw [committed.history, UndoStack.record]
  split
  · have entries := History.entries_push fresh.bounded (before.entry label)
    refine ⟨recorded.limit, ?_, ?_⟩
    · rw [entries, List.map_take, List.map_cons, recorded.entries, recorded.limit]
      rfl
    · intro entry member
      rw [entries] at member
      rcases List.mem_cons.mp (List.mem_of_mem_take member) with rfl | old
      · exact fresh.placed
      · exact recorded.placed entry old
  · exact recorded

namespace UndoStack

variable {editor : Editor} {stack : UndoStack}

/-- A stack that fits an editor.  In the command mode it records the history.  In the text mode it
knows the buffer as it was when text entry was opened, and records the history of that one. -/
inductive Tracks (stack : UndoStack) (editor : Editor) : Prop
  | command (ready : editor.CommandReady) (bounded : editor.buffer.history.Bounded)
      (closed : stack.opened? = none) (recorded : editor.buffer.history.RecordedBy stack.entries)
  | text (ready : editor.TextReady) (registry : editor.registry = Registry.own) {origin : Buffer}
      {label : String} {count : Nat} (fresh : origin.Fresh)
      (edited : (origin.enter label).Edited count editor.buffer)
      (opened : stack.opened? = some (origin.snapshot, origin.document.version))
      (recorded : origin.history.RecordedBy stack.entries)

theorem Tracks.sound (tracks : stack.Tracks editor) : editor.Sound := by
  cases tracks with
  | command ready bounded closed recorded => exact .command ready bounded
  | text ready registry fresh edited opened recorded => exact .text ready registry fresh edited

/-- In the command mode, the stack records the history. -/
theorem Tracks.recorded (tracks : stack.Tracks editor) (awaiting : editor.session.mode = .command) :
    editor.buffer.history.RecordedBy stack.entries := by
  cases tracks with
  | command ready bounded closed recorded => exact recorded
  | text ready =>
      rw [ready.mode] at awaiting
      cases awaiting

/-- A line that leaves the editor in the command mode with its history as it was, and does not ask
for an undo or is not completed, leaves the stack alone. -/
theorem advance_same {after : Editor} {raw : String} {outcome : Except Fault Output}
    (before : editor.session.mode = .command) (mode : after.session.mode = .command)
    (idle : editor.completes outcome = false ∨
      Editor.asksUndo raw = false ∧ after.buffer.document = editor.buffer.document) :
    stack.advance editor after raw outcome = stack := by
  rw [advance, before, mode]
  rcases idle with incomplete | ⟨other, document⟩
  · simp only [incomplete, Bool.not_false, if_true]
  · simp only [other, Bool.false_eq_true, if_false, Editor.editsBetween, document, Nat.sub_self,
      record, Nat.lt_irrefl, ite_self]

@[simp] theorem record_opened? (edits : Nat) (before : Snapshot) :
    (stack.record edits before).opened? = stack.opened? := by
  rw [record]
  split <;> rfl

theorem tracks_command (sound : editor.Sound) (mode : editor.session.mode = .command)
    (closed : stack.opened? = none) (recorded : editor.buffer.history.RecordedBy stack.entries) :
    stack.Tracks editor :=
  .command (sound.commandReady mode) sound.bounded closed recorded

/-- A command line keeps the stack fitting. -/
theorem tracks_commandStep {after : Editor} {raw : String} {outcome : Except Fault Output}
    (ready : editor.CommandReady) (bounded : editor.buffer.history.Bounded)
    (goesOn : editor.session.ended = false) (closed : stack.opened? = none)
    (recorded : editor.buffer.history.RecordedBy stack.entries)
    (step : editor.CommandStep (withoutLineEnd raw) outcome after) :
    (stack.advance editor after raw outcome).Tracks after := by
  have fresh := ready.fresh bounded
  have letter : (CommandLine.scan (withoutLineEnd raw)).letter? ≠ some undoLetter →
      Editor.asksUndo raw = false := fun other => by simpa [Editor.asksUndo] using other
  have sound := step.sound ready bounded goesOn
  cases step with
  | refused steady session events failed undo =>
      have mode : after.session.mode = .command := by rw [session]; exact ready.mode
      rw [advance_same ready.mode mode (.inl (by simp [Editor.completes, failed]))]
      exact tracks_command sound mode closed (steady.buffer.symm ▸ recorded)
  | escaped steady session unforeseen notMisuse undo =>
      have mode : after.session.mode = .command := by rw [session]; exact ready.mode
      rw [advance_same ready.mode mode (.inl rfl)]
      exact tracks_command sound mode closed (steady.buffer.symm ▸ recorded)
  | consulted kept other buffer pending session succeeded =>
      have mode : after.session.mode = .command := by rw [session]; exact ready.mode
      rw [advance_same ready.mode mode (.inr ⟨letter other, buffer.document⟩)]
      exact tracks_command sound mode closed (buffer.history.symm ▸ recorded)
  | @committed output _ kept other buffer pending session succeeded =>
      have mode : after.session.mode = .command := by rw [session]; exact ready.mode
      obtain ⟨label, count, committed⟩ := buffer
      have edits : editor.editsBetween after = count := by
        rw [Editor.editsBetween, committed.document.version_eq]
        omega
      have completes : editor.completes (.ok output) = true := by
        simp [Editor.completes, goesOn, succeeded]
      have advanced : stack.advance editor after raw (.ok output) =
          stack.record count editor.buffer.snapshot := by
        simp only [advance, ready.mode, mode, completes, letter other, edits, Bool.not_true,
          Bool.false_eq_true, if_false]
      rw [advanced]
      exact tracks_command sound mode (by rw [record_opened?, closed])
        (committed.recorded fresh recorded)
  | opened kept other buffer pending session start within =>
      have mode : after.session.mode = .text := by rw [session]
      obtain ⟨label, count, edited⟩ := buffer
      obtain ⟨readyAfter, registry⟩ := sound.textReady mode
      rw [advance, ready.mode, mode]
      exact .text readyAfter registry fresh edited rfl recorded
  | undone kept same buffer pending session =>
      have mode : after.session.mode = .command := by rw [session]; exact ready.mode
      have completes : editor.completes (.ok { kind := .none }) = true := by
        simp [Editor.completes, goesOn]
      have advanced : stack.advance editor after raw (.ok { kind := .none }) =
          { stack with entries := stack.entries.tail } := by
        simp [advance, ready.mode, mode, completes, Editor.asksUndo, same]
      rw [advanced]
      refine tracks_command sound mode closed ?_
      obtain ⟨entry, rest, back⟩ := Buffer.undo?_restored buffer
      rw [back.history]
      refine ⟨recorded.limit, ?_, fun other member => recorded.placed other ?_⟩
      · rw [← recorded.entries, back.entries]
        rfl
      · rw [back.entries]
        exact List.mem_cons_of_mem entry member

/-- A line of a text keeps the stack fitting. -/
theorem tracks_textStep {after : Editor} {raw : String} {outcome : Except Fault Output}
    (ready : editor.TextReady) (registry : editor.registry = Registry.own) {origin : Buffer}
    {label : String} {count : Nat} (fresh : origin.Fresh)
    (edited : (origin.enter label).Edited count editor.buffer)
    (opened : stack.opened? = some (origin.snapshot, origin.document.version))
    (recorded : origin.history.RecordedBy stack.entries)
    (step : editor.TextStep (withoutLineEnd raw) after) :
    (stack.advance editor after raw outcome).Tracks after := by
  have sound := step.sound ready registry fresh edited
  cases step with
  | entered other kept buffer lines pending session within =>
      have mode : after.session.mode = .text := by rw [session]; exact ready.mode
      obtain ⟨readyAfter, registryAfter⟩ := sound.textReady mode
      rw [advance, ready.mode, mode]
      exact .text readyAfter registryAfter fresh (edited.trans buffer) opened recorded
  | closed ends kept buffer isCommitted pending session =>
      have mode : after.session.mode = .command := by rw [session]
      have committed := (edited.trans buffer).committed fresh.closed
      rw [← isCommitted] at committed
      have edits : after.buffer.document.version - origin.document.version = count := by
        rw [committed.document.version_eq]
        omega
      have advanced : stack.advance editor after raw outcome =
          { stack with opened? := none }.record count origin.snapshot := by
        simp only [advance, ready.mode, mode, opened, edits]
      rw [advanced]
      exact tracks_command sound mode (by rw [record_opened?]) (committed.recorded fresh recorded)

/-- **Every line keeps the stack fitting.** -/
theorem Tracks.next (tracks : stack.Tracks editor) (raw : String) :
    (stack.next editor raw).Tracks (editor.next raw) := by
  cases tracks with
  | command ready bounded closed recorded =>
      cases ended : editor.session.ended with
      | false =>
          exact tracks_commandStep ready bounded ended closed recorded (ready.step ended raw)
      | true =>
          obtain ⟨answer, next⟩ := Editor.submit_ended ended raw
          rw [UndoStack.next, answer, next,
            advance_same ready.mode ready.mode (.inl (by simp [Editor.completes, ended]))]
          exact .command ready bounded closed recorded
  | text ready registry fresh edited opened recorded =>
      exact tracks_textStep ready registry fresh edited opened recorded (ready.step raw).2

/-- **The history is the stack of changes after any run.** -/
theorem Tracks.run (lines : List String) : ∀ {stack : UndoStack} {editor : Editor},
    stack.Tracks editor → (stack.run editor lines).Tracks (editor.run lines) := by
  induction lines with
  | nil => exact fun tracks => tracks
  | cons raw rest ih => exact fun tracks => ih (tracks.next raw)

end UndoStack

end LineEditor

import LineEditor.Proofs.Editor.Invariant
import LineEditor.Proofs.Editor.UndoStack

/-!
# Undo is exact

Undo gives the lines and the current line back that the stack of changes holds
on top, or it is refused if the stack is empty (`UndoStack.Tracks.undo`).  So as
many changes as the stack can hold, one after the other, are taken back by as
many undos (`UndoStack.Tracks.undo_changes`).

A change is a completed command that has made edits, or a text entry from the
command that opens it to its end, if there were edits in it (`Editor.Change`).
`Editor.undo_exact` puts it together for whole sessions.
-/

set_option autoImplicit false

namespace LineEditor

namespace Editor

/-- The addresses of a line are accepted; one without addresses always is. -/
def AcceptsLine (editor : Editor) (raw : String) : Prop :=
  (CommandLine.scan (withoutLineEnd raw)).first = "" ∨
    editor.Accepts (CommandLine.scan (withoutLineEnd raw))

theorem AcceptsLine.accepts {editor : Editor} {raw : String}
    (acceptsLine : editor.AcceptsLine raw) :
    editor.Accepts (CommandLine.scan (withoutLineEnd raw)) := by
  rcases acceptsLine with first | accepts
  · refine editor.accepts_unaddressed first ?_
    exact Classical.byContradiction fun second => CommandLine.scan_first_of_second second first
  · exact accepts

/-- A completed change, from one moment in the command mode to another: a command that has made
edits, or a text entry from the command that opens it to the line that ends it, if there were edits
in it. -/
inductive Change (editor : Editor) : List String → Prop
  | command {raw : String} (completed : editor.completes (editor.answer raw) = true)
      (other : asksUndo raw = false) (stays : (editor.next raw).session.mode = .command)
      (edits : 0 < editor.editsBetween (editor.next raw)) : Change editor [raw]
  | entry {raw close : String} {texts : List String}
      (opens : (editor.next raw).session.mode = .text)
      (others : ∀ text ∈ texts, withoutLineEnd text ≠ EditorM.textEnd)
      (ends : withoutLineEnd close = EditorM.textEnd)
      (edits : 0 < editor.editsBetween (editor.run (raw :: texts ++ [close]))) :
      Change editor (raw :: texts ++ [close])

/-- Changes one after the other. -/
inductive Changes : Editor → List (List String) → Prop
  | nil (editor : Editor) : Changes editor []
  | cons {editor : Editor} {block : List String} {blocks : List (List String)}
      (change : editor.Change block) (changes : Changes (editor.run block) blocks) :
      Changes editor (block :: blocks)

theorem run_append (editor : Editor) (first second : List String) :
    editor.run (first ++ second) = (editor.run first).run second :=
  List.foldl_append

/-- A line that asks for an undo takes the latest change back, or it is refused if there is none. -/
theorem CommandReady.undo_step {editor : Editor} (ready : editor.CommandReady)
    (goesOn : editor.session.ended = false) {raw : String} (asks : asksUndo raw = true)
    (accepted : editor.AcceptsLine raw) :
    (editor.buffer.history.entries = [] ∧ (editor.next raw).buffer = editor.buffer ∧
      (editor.next raw).session.lastError = "nothing to undo" ∧
      ∃ output, editor.answer raw = .ok output ∧ output.kind = .error) ∨
    ∃ entry rest, Buffer.Restored entry rest editor.buffer (editor.next raw).buffer ∧
      editor.answer raw = .ok { kind := .none } ∧
      (editor.next raw).session =
        { editor.session with lastSearch? := (editor.next raw).session.lastSearch? } := by
  have letter : (CommandLine.scan (withoutLineEnd raw)).letter? = some undoLetter := by
    simpa [asksUndo] using asks
  have step := ready.step goesOn raw
  revert step
  generalize editor.answer raw = outcome
  generalize editor.next raw = after
  intro step
  cases step with
  | refused steady session events failed undo =>
      rcases undo letter with ⟨rfl, entries⟩ | unaccepted
      · refine .inl ⟨entries, steady.buffer, ?_, _, rfl, failed⟩
        rw [session]
        rfl
      · exact absurd accepted.accepts unaccepted
  | escaped steady session unforeseen notMisuse undo =>
      exact absurd accepted.accepts (undo letter)
  | consulted kept other => exact absurd letter other
  | committed kept other => exact absurd letter other
  | opened kept other => exact absurd letter other
  | undone kept same buffer pending session =>
      obtain ⟨entry, rest, restored⟩ := Buffer.undo?_restored buffer
      exact .inr ⟨entry, rest, restored, rfl, session⟩

end Editor

namespace UndoStack

variable {editor : Editor} {stack : UndoStack}

theorem run_append (first second : List String) : ∀ (stack : UndoStack) (editor : Editor),
    stack.run editor (first ++ second) =
      (stack.run editor first).run (editor.run first) second := by
  induction first with
  | nil => exact fun _ _ => rfl
  | cons raw rest ih => exact fun stack editor => ih (stack.next editor raw) (editor.next raw)

/-- **Undo goes back to the top of the stack, and is refused if there is none.** -/
theorem Tracks.undo (tracks : stack.Tracks editor) (awaiting : editor.session.mode = .command)
    (goesOn : editor.session.ended = false) {raw : String} (asks : Editor.asksUndo raw = true)
    (accepted : editor.AcceptsLine raw) :
    (∀ snapshot rest, stack.entries = snapshot :: rest →
      editor.answer raw = .ok { kind := .none } ∧
      (editor.next raw).buffer.snapshot = snapshot ∧ (editor.next raw).buffer.modified = true ∧
      (editor.next raw).session.mode = .command ∧ (editor.next raw).session.ended = false ∧
      (stack.next editor raw).entries = rest) ∧
    (stack.entries = [] →
      ∃ output, editor.answer raw = .ok output ∧ output.kind = .error ∧
        (editor.next raw).session.lastError = "nothing to undo" ∧
        (editor.next raw).buffer = editor.buffer) := by
  have ready := tracks.sound.commandReady awaiting
  have recorded := tracks.recorded awaiting
  rcases ready.undo_step goesOn asks accepted with
    ⟨entries, buffer, lastError, output, answer, failed⟩ | ⟨entry, rest, back, answer, session⟩
  · constructor
    · intro snapshot others nonempty
      rw [← recorded.entries, entries] at nonempty
      cases nonempty
    · intro _
      exact ⟨output, answer, failed, lastError, buffer⟩
  · have entries : stack.entries = entry.snapshot :: rest.map HistoryEntry.snapshot := by
      rw [← recorded.entries, back.entries, List.map_cons]
    -- The entry was made of a buffer whose current line could be addressed, so nothing is clamped.
    have placed := recorded.placed entry (by rw [back.entries]; exact List.mem_cons_self)
    have current : (editor.next raw).buffer.current = entry.current := by
      rw [back.current]
      omega
    have mode : (editor.next raw).session.mode = .command := by rw [session]; exact ready.mode
    have ended : (editor.next raw).session.ended = false := by rw [session]; exact goesOn
    have completes : editor.completes (.ok { kind := .none }) = true := by
      simp [Editor.completes, goesOn]
    constructor
    · intro snapshot others same
      rw [entries] at same
      obtain ⟨rfl, rfl⟩ := List.cons.inj same
      refine ⟨answer, ?_, back.modified, mode, ended, ?_⟩
      · rw [Buffer.snapshot, HistoryEntry.snapshot, back.lines, current]
      · rw [UndoStack.next, answer]
        simp [advance, ready.mode, mode, completes, asks, entries]
    · intro empty
      rw [entries] at empty
      cases empty

/-! ## Changes -/

/-- Lines of a text leave the stack alone. -/
theorem run_texts (texts : List String) : ∀ {editor : Editor}, editor.TextReady →
    (∀ text ∈ texts, withoutLineEnd text ≠ EditorM.textEnd) →
      stack.run editor texts = stack := by
  induction texts with
  | nil => exact fun _ _ => rfl
  | cons raw rest ih =>
      intro editor ready others
      obtain ⟨ready', -⟩ := (ready.step raw).2.ready ready (others raw List.mem_cons_self)
      have same : stack.next editor raw = stack := by
        rw [UndoStack.next, advance, ready.mode, ready'.mode]
      rw [run, same]
      exact ih ready' fun other member => others other (List.mem_cons_of_mem _ member)

/-- A command that has made edits does not end the session. -/
theorem goesOn_of_edits (ready : editor.CommandReady) (goesOn : editor.session.ended = false)
    {raw : String} (other : Editor.asksUndo raw = false)
    (edits : 0 < editor.editsBetween (editor.next raw)) :
    (editor.next raw).session.ended = false := by
  have step := ready.step goesOn raw
  revert step edits
  generalize editor.answer raw = outcome
  generalize editor.next raw = after
  intro edits step
  have unedited : after.buffer.document = editor.buffer.document → after.session.ended = false := by
    intro same
    rw [Editor.editsBetween, same] at edits
    omega
  cases step with
  | refused steady => exact unedited (congrArg Buffer.document steady.buffer)
  | escaped steady => exact unedited (congrArg Buffer.document steady.buffer)
  | consulted kept otherLetter buffer => exact unedited buffer.document
  | committed kept otherLetter buffer pending session => rw [session]; exact goesOn
  | opened kept otherLetter buffer pending session => rw [session]; exact goesOn
  | undone kept same => simp [Editor.asksUndo, same] at other

/-- A change is one step of the stack, and the session goes on in the command mode. -/
theorem Tracks.change (tracks : stack.Tracks editor) (awaiting : editor.session.mode = .command)
    (goesOn : editor.session.ended = false) {block : List String} (change : editor.Change block) :
    (stack.run editor block).entries =
        (editor.buffer.snapshot :: stack.entries).take undoLimit ∧
      (editor.run block).session.mode = .command ∧ (editor.run block).session.ended = false := by
  have ready := tracks.sound.commandReady awaiting
  cases change with
  | @command raw completed other stays edits =>
      refine ⟨?_, stays, goesOn_of_edits ready goesOn other edits⟩
      have advanced : stack.next editor raw =
          stack.record (editor.editsBetween (editor.next raw)) editor.buffer.snapshot := by
        simp only [UndoStack.next, advance, awaiting, stays, completed, other, Bool.not_true,
          Bool.false_eq_true, if_false]
      rw [UndoStack.run, UndoStack.run, advanced, record, if_pos edits]
  | @entry raw close texts opens others ends edits =>
      obtain ⟨opened, -⟩ := (tracks.next raw).sound.textReady opens
      have entering := (Editor.TextReady.run_lines texts opened others).1
      have final : editor.run (raw :: texts ++ [close]) =
          ((editor.next raw).run texts).next close := by
        rw [Editor.run_append]
        rfl
      cases ((entering.step close).2) with
      | entered other => exact absurd ends other
      | closed ends kept buffer committed pending session =>
          have mode : (((editor.next raw).run texts).next close).session.mode = .command := by
            rw [session]
          refine ⟨?_, by rw [final, mode], by rw [final, session]; exact entering.goesOn⟩
          have advanced : stack.next editor raw =
              { stack with
                opened? := some (editor.buffer.snapshot, editor.buffer.document.version) } := by
            simp only [UndoStack.next, advance, awaiting, opens]
          rw [final, Editor.editsBetween] at edits
          have closing : stack.run editor (raw :: texts ++ [close]) =
              ((stack.next editor raw).run (editor.next raw) texts).next
                ((editor.next raw).run texts) close := by
            rw [run_append]
            rfl
          rw [closing, run_texts texts opened others, advanced, UndoStack.next, advance,
            entering.mode, mode]
          simp only [record, if_pos edits]

theorem Tracks.height (tracks : stack.Tracks editor) (awaiting : editor.session.mode = .command) :
    stack.entries.length ≤ undoLimit := by
  have recorded := tracks.recorded awaiting
  have limit := recorded.limit
  have bounded := tracks.sound.bounded
  simp only [History.Bounded, History.size] at bounded
  rw [← recorded.entries, List.length_map]
  simp only [undoLimit] at limit ⊢
  omega

/-- As many undos as there have been changes go back to where the changes began, as long as the
stack can hold them.  The entries below those of the changes come up again, but for the oldest
ones, which the changes have pushed out. -/
theorem Tracks.undo_changes {blocks : List (List String)} (changes : editor.Changes blocks) :
    ∀ {stack : UndoStack}, stack.Tracks editor → editor.session.mode = .command →
      editor.session.ended = false → blocks.length ≤ undoLimit →
      ∀ undos : List String, undos.length = blocks.length →
      (∀ raw ∈ undos, Editor.asksUndo raw = true ∧
        (CommandLine.scan (withoutLineEnd raw)).first = "") →
      ((editor.run blocks.flatten).run undos).buffer.snapshot = editor.buffer.snapshot ∧
      ((editor.run blocks.flatten).run undos).session.mode = .command ∧
      ((editor.run blocks.flatten).run undos).session.ended = false ∧
      ((stack.run editor blocks.flatten).run (editor.run blocks.flatten) undos).entries =
        stack.entries.take (undoLimit - blocks.length) := by
  induction changes with
  | nil editor =>
      intro stack tracks awaiting goesOn few undos none asks
      obtain rfl := List.length_eq_zero_iff.mp none
      refine ⟨rfl, awaiting, goesOn, ?_⟩
      exact (List.take_of_length_le (tracks.height awaiting)).symm
  | @cons editor block blocks change changes ih =>
      intro stack tracks awaiting goesOn few undos size asks
      obtain ⟨pushed, awaiting', goesOn'⟩ := tracks.change awaiting goesOn change
      rcases List.eq_nil_or_concat undos with rfl | ⟨init, last, same⟩
      · cases size
      rw [List.concat_eq_append] at same
      subst same
      rw [List.length_cons] at few
      have initSize : init.length = blocks.length := by
        simpa using size
      obtain ⟨-, mode, ended, entries⟩ := ih (tracks.run block) awaiting' goesOn' (by omega) init
        initSize fun raw member => asks raw (List.mem_append_left _ member)
      obtain ⟨asksLast, unaddressed⟩ := asks last (List.mem_append_right _ List.mem_cons_self)
      have deep : undoLimit - blocks.length = undoLimit - (blocks.length + 1) + 1 := by omega
      have top : (((stack.run editor block).run (editor.run block) blocks.flatten).run
          ((editor.run block).run blocks.flatten) init).entries =
            editor.buffer.snapshot :: stack.entries.take (undoLimit - (blocks.length + 1)) := by
        rw [entries, pushed, List.take_take, Nat.min_eq_left (by omega), deep, List.take_succ_cons]
      have tracked := ((tracks.run block).run blocks.flatten).run init
      obtain ⟨-, snapshot, -, mode', ended', rest⟩ :=
        (tracked.undo mode ended asksLast (.inl unaddressed)).1 _ _ top
      simp only [List.flatten_cons, Editor.run_append, UndoStack.run_append, List.length_cons]
      exact ⟨snapshot, mode', ended', rest⟩

end UndoStack

namespace Editor

/-- The empty stack fits an editor that is launched with its own commands, for a buffer without a
history. -/
theorem tracks_launched {options : LaunchOptions} {journal : Telemetry.Journal} {start : Editor}
    (standard : options.Standard)
    (unused : ∀ buffer, options.buffer? = some buffer → buffer.history = {})
    (success : launch options journal = .ok start) : UndoStack.Tracks {} start := by
  obtain ⟨launched, same, ready, buffer, -, fresh⟩ := launch_standard standard journal
  obtain rfl := Except.ok.inj (same.symm.trans success)
  have history : launched.buffer.history = {} := by
    rw [buffer]
    cases given : options.buffer? with
    | none => rfl
    | some own => exact unused own given
  refine .command ready fresh.bounded rfl ?_
  rw [history]
  exact ⟨rfl, rfl, fun entry member => by cases member⟩

/-- **Multi-level undo is exact over whole sessions.**  Take any sequence of lines that is submitted
to an editor with its own commands, for a buffer without a history, and the stack of changes that is
kept beside it.

In the command mode, the history is that stack, entry for entry.  What the stack counts as primitive
edits is just that: every line, unless it takes a change back, edits the document by as many as it
says.  A line to undo with valid addresses makes the lines and the current line those on top of the
stack and sets the modified flag; if the stack is empty, it is refused because there is nothing to
undo, and the buffer stays as it is.  And as many changes, one after the other, as the stack can
hold are taken back by as many undos. -/
theorem undo_exact {options : LaunchOptions} {journal : Telemetry.Journal} {start : Editor}
    (standard : options.Standard)
    (unused : ∀ buffer, options.buffer? = some buffer → buffer.history = {})
    (success : launch options journal = .ok start) (lines : List String) :
    let editor := start.run lines
    let stack := UndoStack.run {} start lines
    (editor.session.mode = .command →
      editor.buffer.history.entries.map HistoryEntry.snapshot = stack.entries) ∧
    (∀ raw, (editor.session.mode = .command → asksUndo raw = false) →
      Document.EditedBy (editor.editsBetween (editor.next raw)) editor.buffer.document
        (editor.next raw).buffer.document) ∧
    (∀ raw, editor.session.mode = .command → editor.session.ended = false →
      asksUndo raw = true → editor.AcceptsLine raw →
      (∀ snapshot rest, stack.entries = snapshot :: rest →
        editor.answer raw = .ok { kind := .none } ∧
        (editor.next raw).buffer.lines = snapshot.lines ∧
        (editor.next raw).buffer.current = snapshot.current ∧
        (editor.next raw).buffer.modified = true) ∧
      (stack.entries = [] →
        ∃ output, editor.answer raw = .ok output ∧ output.kind = .error ∧
          (editor.next raw).session.lastError = "nothing to undo" ∧
          (editor.next raw).buffer.lines = editor.buffer.lines ∧
          (editor.next raw).buffer.current = editor.buffer.current)) ∧
    ∀ blocks : List (List String), editor.session.mode = .command →
      editor.session.ended = false → editor.Changes blocks → blocks.length ≤ undoLimit →
      ∀ undos : List String, undos.length = blocks.length →
      (∀ raw ∈ undos, asksUndo raw = true ∧
        (CommandLine.scan (withoutLineEnd raw)).first = "") →
      ((editor.run blocks.flatten).run undos).buffer.lines = editor.buffer.lines ∧
      ((editor.run blocks.flatten).run undos).buffer.current = editor.buffer.current := by
  intro editor stack
  have tracks : stack.Tracks editor := (tracks_launched standard unused success).run lines
  refine ⟨fun awaiting => (tracks.recorded awaiting).entries,
    fun raw other => tracks.sound.edits_next other, ?_, ?_⟩
  · intro raw awaiting goesOn asks accepted
    obtain ⟨nonempty, empty⟩ := tracks.undo awaiting goesOn asks accepted
    constructor
    · intro snapshot rest top
      obtain ⟨answer, same, modified, -⟩ := nonempty snapshot rest top
      subst same
      exact ⟨answer, rfl, rfl, modified⟩
    · intro none
      obtain ⟨output, answer, failed, message, buffer⟩ := empty none
      exact ⟨output, answer, failed, message, by rw [buffer], by rw [buffer]⟩
  · intro blocks awaiting goesOn changes few undos size asks
    have back :=
      (UndoStack.Tracks.undo_changes changes tracks awaiting goesOn few undos size asks).1
    exact ⟨congrArg Snapshot.lines back, congrArg Snapshot.current back⟩

/-- A deletion and a text entry, with a failing line before them, are taken back by two undos. -/
theorem undo_exact_entry :
    LaunchOptions.Standard { buffer? := some (.ofText "one\ntwo") } ∧
      launch { buffer? := some (.ofText "one\ntwo") } { configuration := ⟨0, []⟩ } =
        .ok (ofText "one\ntwo") ∧
      ((ofText "one\ntwo").run ["9p"]).Changes [["1d"], ["a", "x", "y", "."]] ∧
      (((ofText "one\ntwo").run ["9p"]).run [["1d"], ["a", "x", "y", "."]].flatten).buffer.lines =
        ["two", "x", "y"] ∧
      ((((ofText "one\ntwo").run ["9p"]).run [["1d"], ["a", "x", "y", "."]].flatten).run
        ["u", "u"]).buffer.lines = ["one", "two"] := by
  have standard := standard_ofText "one\ntwo"
  have success := launch_ofText "one\ntwo"
  have deletion : ((ofText "one\ntwo").run ["9p"]).Change ["1d"] :=
    .command (by decide +kernel) (by decide +kernel) (by decide +kernel) (by decide +kernel)
  have opens : ((((ofText "one\ntwo").run ["9p"]).run ["1d"]).next "a").session.mode = .text := by
    decide +kernel
  have others : ∀ text ∈ ["x", "y"], withoutLineEnd text ≠ EditorM.textEnd := by decide +kernel
  have ends : withoutLineEnd "." = EditorM.textEnd := by decide +kernel
  have edits : 0 < editsBetween (((ofText "one\ntwo").run ["9p"]).run ["1d"])
      ((((ofText "one\ntwo").run ["9p"]).run ["1d"]).run ("a" :: ["x", "y"] ++ ["."])) := by
    decide +kernel
  have changes : ((ofText "one\ntwo").run ["9p"]).Changes [["1d"], ["a", "x", "y", "."]] :=
    .cons deletion (.cons (.entry opens others ends edits) (.nil _))
  refine ⟨standard, success, changes, by decide +kernel, ?_⟩
  have exact := undo_exact standard (fun buffer given => by cases given; rfl) success ["9p"]
  have back := (exact.2.2.2 _ (by decide +kernel) (by decide +kernel) changes (by decide)
    ["u", "u"] rfl (by decide +kernel)).1
  rw [back]
  decide +kernel

end Editor

end LineEditor

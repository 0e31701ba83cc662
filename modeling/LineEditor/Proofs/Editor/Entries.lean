import LineEditor.Proofs.Editor.Numbered
import LineEditor.Proofs.Editor.Opening
import LineEditor.Proofs.Editor.Undoing

/-!
# Text entry from end to end

A text is entered by a line that opens text entry, the lines of the text, and a
line that ends it.  `Editor.Entered` says what has become of the editor by then,
and `Editor.Begun.entered` that it has, for any text.  The whole of it is one
step of the history, so a single undo goes back to before the line that opened
text entry.

`Editor.text_entry_exact` puts it together with the three commands that open
text entry.
-/

set_option autoImplicit false

namespace LineEditor

/-- A push onto a history that can hold an entry puts it on top. -/
theorem History.push_entries {history : History} (room : 1 ≤ history.limit)
    (entry : HistoryEntry) : ∃ rest, (history.push entry).entries = entry :: rest := by
  simp only [push]
  split
  · rename_i beyond
    cases entries : history.entries with
    | nil =>
        simp only [entries, List.length_singleton] at beyond
        omega
    | cons latest others => exact ⟨(latest :: others).dropLast, rfl⟩
  · exact ⟨history.entries, rfl⟩

namespace Editor

/-- A text entry changes something: there are lines to be entered, or lines have been removed for
them. -/
def EntryChanges (before : Editor) (place resume : Nat) (texts : List String) : Prop :=
  texts ≠ [] ∨ place < min resume before.buffer.lineCount

instance (before : Editor) (place resume : Nat) (texts : List String) :
    Decidable (before.EntryChanges place resume texts) :=
  inferInstanceAs (Decidable (_ ∨ _))

/-- A text has been entered: it stands behind the first `place` lines and before those behind
`resume`, and its last line is the current one.  If that has changed anything, it is one step of the
history, which undo takes back; `opened` is the editor while text was being entered. -/
structure Entered (before opened : Editor) (place resume : Nat) (label : String)
    (texts : List String) (after : Editor) : Prop where
  lines : after.buffer.lines =
    before.buffer.lines.take place ++ texts ++ before.buffer.lines.drop resume
  mode : after.session.mode = .command
  current : after.buffer.current = max 1 (place + texts.length)
  history : after.buffer.history =
    if before.EntryChanges place resume texts then
      before.buffer.history.push (before.buffer.entry label)
    else before.buffer.history
  marks : after.session.marks = opened.session.marks
  lastSearch : after.session.lastSearch? = opened.session.lastSearch?
  undo : before.EntryChanges place resume texts → 1 ≤ before.buffer.history.limit →
    ∀ raw, asksUndo raw = true → after.AcceptsLine raw →
      (after.next raw).buffer.lines = before.buffer.lines ∧
      (after.next raw).buffer.current = before.buffer.current

/-- A line that opens text entry, any lines of a text and a line that ends it enter the text. -/
def EntersText (editor : Editor) (raw : String) (place resume : Nat) (label : String) : Prop :=
  ∀ (texts : List String) (close : String),
    (∀ text ∈ texts, withoutLineEnd text ≠ EditorM.textEnd) →
    withoutLineEnd close = EditorM.textEnd →
    editor.Entered (editor.next raw) place resume label (texts.map withoutLineEnd)
      (editor.run (raw :: texts ++ [close]))

variable {editor : Editor}

/-- The lines of a text are so many primitive edits, and they move the place for the text along. -/
theorem TextReady.run_edited (texts : List String) :
    ∀ {editor : Editor}, editor.TextReady →
      (∀ text ∈ texts, withoutLineEnd text ≠ EditorM.textEnd) →
      editor.Kept (editor.run texts) ∧ editor.buffer.Edited texts.length (editor.run texts).buffer ∧
        (editor.run texts).session =
          { editor.session with insertAfter := editor.session.insertAfter + texts.length } := by
  induction texts with
  | nil => exact fun _ _ => ⟨.refl _, .refl _, by simp [run]⟩
  | cons raw rest ih =>
      intro editor ready others
      have step := (ready.step raw).2
      have ready' := (step.ready ready (others raw List.mem_cons_self)).1
      obtain ⟨keptRest, editedRest, sessionRest⟩ :=
        ih ready' fun other member => others other (List.mem_cons_of_mem _ member)
      cases step with
      | closed ends => exact absurd ends (others raw List.mem_cons_self)
      | entered other kept buffer lines pending session within =>
          refine ⟨kept.trans keptRest, ?_, ?_⟩
          · rw [List.length_cons, Nat.add_comm]
            exact buffer.trans editedRest
          · rw [show editor.run (raw :: rest) = (editor.next raw).run rest from rfl, sessionRest,
              session]
            have place : editor.session.insertAfter + 1 + rest.length =
                editor.session.insertAfter + (raw :: rest).length := by
              rw [List.length_cons]
              omega
            rw [place]

/-- Lines of a text and the line that ends it: the text is one block at the place for it, and the
transaction is committed. -/
theorem TextReady.run_entry (ready : editor.TextReady) (texts : List String)
    (others : ∀ text ∈ texts, withoutLineEnd text ≠ EditorM.textEnd) {close : String}
    (ends : withoutLineEnd close = EditorM.textEnd) :
    ∃ moved, editor.buffer.Edited texts.length moved ∧
      ((editor.run texts).next close).buffer = moved.commit ∧
      moved.lines =
        editor.buffer.lines.take editor.session.insertAfter.toNat ++ texts.map withoutLineEnd ++
          editor.buffer.lines.drop editor.session.insertAfter.toNat ∧
      (moved.current : Int) = max 1 (editor.session.insertAfter + texts.length) ∧
      editor.Kept ((editor.run texts).next close) ∧
      ((editor.run texts).next close).pending = false ∧
      ((editor.run texts).next close).session =
        { editor.session with
          mode := .command
          insertAfter := editor.session.insertAfter + texts.length } := by
  obtain ⟨entering, lines⟩ := ready.run_lines texts others
  obtain ⟨kept, edited, session⟩ := ready.run_edited texts others
  have within := entering.within
  cases (entering.step close).2 with
  | entered other => exact absurd ends other
  | @closed _ keptClose moved buffer committed pending sessionClose current =>
      refine ⟨moved, edited.trans buffer, committed, ?_, ?_, kept.trans keptClose, pending, ?_⟩
      · rw [Buffer.lines, buffer.document.eq_of_zero]
        exact lines
      · rw [current, Int.min_eq_left within, session]
      · rw [sessionClose, session]

/-- Undo in the command mode goes back to the latest entry, if there is one. -/
theorem CommandReady.undo_latest (ready : editor.CommandReady)
    (goesOn : editor.session.ended = false) {entry : HistoryEntry} {rest : List HistoryEntry}
    (entries : editor.buffer.history.entries = entry :: rest) {raw : String}
    (asks : asksUndo raw = true) (accepted : editor.AcceptsLine raw) :
    Buffer.Restored entry rest editor.buffer (editor.next raw).buffer := by
  rcases ready.undo_step goesOn asks accepted with ⟨none, -⟩ | ⟨latest, others, restored, -⟩
  · rw [entries] at none
    cases none
  · obtain ⟨rfl, rfl⟩ := List.cons.inj (restored.entries.symm.trans entries)
    exact restored

/-- If the latest step of the history is a change of a buffer, undo brings its lines and its current
line back. -/
theorem CommandReady.undo_pushed (ready : editor.CommandReady)
    (goesOn : editor.session.ended = false) {before : Buffer} {label : String}
    (history : editor.buffer.history = before.history.push (before.entry label))
    (placed : before.Placed) (room : 1 ≤ before.history.limit) {raw : String}
    (asks : asksUndo raw = true) (accepted : editor.AcceptsLine raw) :
    (editor.next raw).buffer.lines = before.lines ∧
      (editor.next raw).buffer.current = before.current := by
  obtain ⟨rest, entries⟩ := History.push_entries room (before.entry label)
  rw [← history] at entries
  have restored := ready.undo_latest goesOn entries asks accepted
  -- The current line could be addressed in the buffer that the entry was made of, so nothing is
  -- clamped.
  have first : 1 ≤ before.current := placed.1
  have last : before.current ≤ max before.lines.length 1 := placed.2
  refine ⟨restored.lines, ?_⟩
  rw [restored.current]
  simp only [Buffer.entry]
  omega

variable {raw label : String} {place resume : Nat}

/-- **Once text entry has begun, any text is entered.** -/
theorem Begun.entered (ready : editor.CommandReady)
    (begun : editor.Begun label place resume (editor.next raw)) (texts : List String)
    (close : String) (others : ∀ text ∈ texts, withoutLineEnd text ≠ EditorM.textEnd)
    (ends : withoutLineEnd close = EditorM.textEnd) :
    editor.Entered (editor.next raw) place resume label (texts.map withoutLineEnd)
      (editor.run (raw :: texts ++ [close])) := by
  obtain ⟨opened, keptOpened, within, ⟨count, edited, counted⟩, linesOpened, isPlace⟩ := begun
  obtain ⟨moved, editedTexts, committed, lines, current, kept, pending, session⟩ :=
    opened.run_entry texts others ends
  have final : editor.run (raw :: texts ++ [close]) =
      ((editor.next raw).run texts).next close := by
    rw [run_append]
    rfl
  rw [← final] at committed kept pending session
  generalize editor.run (raw :: texts ++ [close]) = after at committed kept pending session ⊢
  -- The transaction holds the edits of the line that opened it and one for each line of text.
  have all := edited.trans editedTexts
  have changes : 0 < count + texts.length ↔
      editor.EntryChanges place resume (texts.map withoutLineEnd) := by
    have nonempty : texts.map withoutLineEnd ≠ [] ↔ 0 < texts.length := by
      rw [← List.length_pos_iff, List.length_map]
    rw [EntryChanges, nonempty, ← counted]
    omega
  have transaction := all.committed ready.closed
  rw [← committed] at transaction
  have readyAfter : after.CommandReady :=
    { registry := (keptOpened.trans kept).registry.trans ready.registry
      placed := transaction.placed ready.placed
      closed := transaction.closed
      modes := (keptOpened.trans kept).modes.trans ready.modes
      mode := by rw [session]
      pending := pending }
  have goesOn : after.session.ended = false := by
    rw [session]
    exact opened.goesOn
  have history : after.buffer.history =
      if editor.EntryChanges place resume (texts.map withoutLineEnd) then
        editor.buffer.history.push (editor.buffer.entry label)
      else editor.buffer.history := by
    rw [transaction.history]
    simp only [changes]
  have prefixLength : (editor.buffer.lines.take place).length = place :=
    List.length_take_of_le within
  rw [Buffer.commit_edited ready.closed all] at committed
  refine ⟨?_, by rw [session], ?_, history, by rw [session], by rw [session], ?_⟩
  · rw [isPlace, linesOpened, Int.toNat_natCast, List.take_left' prefixLength,
      List.drop_left' prefixLength] at lines
    rw [committed]
    exact lines
  · rw [isPlace] at current
    rw [committed, List.length_map]
    show moved.current = _
    omega
  · intro changed room raw asks accepted
    rw [if_pos changed] at history
    exact readyAfter.undo_pushed goesOn history ready.placed room asks accepted

/-! ## The three commands -/

/-- The commands that open text entry take the lines that they are given. -/
theorem own_opening_bound {letter : Char} (opens : letter ∈ ['a', 'i', 'c']) :
    ScanState.IsLetter letter ∧
      ∃ spec, Registry.own.find? letter = some spec ∧ spec.letter = letter ∧
        (∀ current start, ∃ invocation,
          spec.bindLines current "" (some start) none = .ok invocation ∧
            invocation.start = start) ∧
        ∀ current start stop, ∃ invocation,
          spec.bindLines current "" (some start) (some stop) = .ok invocation ∧
            invocation.start = start ∧ invocation.stop = stop := by
  simp only [List.mem_cons, List.not_mem_nil, or_false] at opens
  rcases opens with rfl | rfl | rfl
  · exact ⟨by decide, _, rfl, rfl, fun _ _ => ⟨_, rfl, rfl⟩, fun _ _ _ => ⟨_, rfl, rfl, rfl⟩⟩
  · exact ⟨by decide, _, rfl, rfl, fun _ _ => ⟨_, rfl, rfl⟩, fun _ _ _ => ⟨_, rfl, rfl, rfl⟩⟩
  · exact ⟨by decide, _, rfl, rfl, fun _ _ => ⟨_, rfl, rfl⟩, fun _ _ _ => ⟨_, rfl, rfl, rfl⟩⟩

/-- Whatever addresses it is given, a line that opens text entry does so for the lines that they
mean. -/
theorem entersText_invoked (ready : editor.CommandReady) (goesOn : editor.session.ended = false)
    {spec : CommandSpec} {invocation : Invocation}
    (invokes : editor.Invokes raw spec invocation) :
    (spec.letter = 'a' → editor.EntersText raw (min invocation.start editor.buffer.lineCount)
      (min invocation.start editor.buffer.lineCount) "a") ∧
    (spec.letter = 'i' →
      editor.EntersText raw (invocation.start - 1) (invocation.start - 1) "i") ∧
    (spec.letter = 'c' →
      editor.EntersText raw (invocation.start - 1) invocation.stop "c") := by
  refine ⟨fun letter => ?_, fun letter => ?_, fun letter => ?_⟩
  · have begun := begun_append ready goesOn invokes letter
    rw [letter] at begun
    exact begun.entered ready
  · have begun := begun_insert ready goesOn invokes letter
    rw [letter] at begun
    exact begun.entered ready
  · have begun := begun_change ready goesOn invokes letter
    rw [letter] at begun
    exact begun.entered ready

/-- A line number and a letter that opens text entry. -/
theorem opens_number (ready : editor.CommandReady) {letter : Char}
    (opens : letter ∈ ['a', 'i', 'c']) {start : Nat} (first : 1 ≤ start)
    (last : start ≤ editor.buffer.lastLine)
    (short : (toString start).length ≤ Text.digitLimit) :
    ∃ spec invocation, editor.Invokes (toString start ++ letter.toString) spec invocation ∧
      spec.letter = letter ∧ invocation.start = start := by
  obtain ⟨isLetter, spec, found, same, one, -⟩ := own_opening_bound opens
  obtain ⟨invocation, bound, isStart⟩ := one editor.buffer.current start
  rw [← ready.registry] at found
  exact ⟨spec, invocation, invokes_number isLetter found short first last bound, same, isStart⟩

/-- Two line numbers and a letter that opens text entry. -/
theorem opens_numbers (ready : editor.CommandReady) {letter : Char}
    (opens : letter ∈ ['a', 'i', 'c']) {start stop : Nat} (first : 1 ≤ start)
    (ordered : start ≤ stop) (last : stop ≤ editor.buffer.lastLine)
    (shortStart : (toString start).length ≤ Text.digitLimit)
    (shortStop : (toString stop).length ≤ Text.digitLimit) :
    ∃ spec invocation,
      editor.Invokes (toString start ++ "," ++ toString stop ++ letter.toString) spec invocation ∧
      spec.letter = letter ∧ invocation.start = start ∧ invocation.stop = stop := by
  obtain ⟨isLetter, spec, found, same, -, two⟩ := own_opening_bound opens
  obtain ⟨invocation, bound, isStart, isStop⟩ := two editor.buffer.current start stop
  rw [← ready.registry] at found
  exact ⟨spec, invocation,
    invokes_numbers isLetter found shortStart shortStop first ordered last bound, same, isStart,
    isStop⟩

/-- **A text is entered exactly as it is typed, from end to end.**  Take an editor with its own
commands that awaits a command, any line that invokes one of the three commands that open text
entry, any lines of a text and a line that ends it.  The text then stands behind the line that `a`
was given, before the line that `i` was given, or in place of the lines that `c` was given.  All
other lines are as before, the current line is the last one of the text, and unless there is no text
and no line was removed for it, all of it is one step of the history.  If the history has room for
that, undo brings the lines and the current line back.

The lines may be given by plain numbers, if they can be addressed and their numerals can be read. -/
theorem text_entry_exact (ready : editor.CommandReady) (goesOn : editor.session.ended = false) :
    (∀ raw spec invocation, editor.Invokes raw spec invocation →
      (spec.letter = 'a' → editor.EntersText raw (min invocation.start editor.buffer.lineCount)
        (min invocation.start editor.buffer.lineCount) "a") ∧
      (spec.letter = 'i' →
        editor.EntersText raw (invocation.start - 1) (invocation.start - 1) "i") ∧
      (spec.letter = 'c' →
        editor.EntersText raw (invocation.start - 1) invocation.stop "c")) ∧
    (∀ start, 1 ≤ start → start ≤ editor.buffer.lastLine →
      (toString start).length ≤ Text.digitLimit →
      editor.EntersText (toString start ++ "a") (min start editor.buffer.lineCount)
        (min start editor.buffer.lineCount) "a" ∧
      editor.EntersText (toString start ++ "i") (start - 1) (start - 1) "i") ∧
    ∀ start stop, 1 ≤ start → start ≤ stop → stop ≤ editor.buffer.lastLine →
      (toString start).length ≤ Text.digitLimit → (toString stop).length ≤ Text.digitLimit →
      editor.EntersText (toString start ++ "," ++ toString stop ++ "c") (start - 1) stop "c" := by
  refine ⟨fun raw spec invocation => entersText_invoked ready goesOn, ?_, ?_⟩
  · intro start first last short
    constructor
    · obtain ⟨spec, invocation, invokes, letter, rfl⟩ :=
        opens_number ready (show 'a' ∈ ['a', 'i', 'c'] by decide) first last short
      exact (entersText_invoked ready goesOn invokes).1 letter
    · obtain ⟨spec, invocation, invokes, letter, rfl⟩ :=
        opens_number ready (show 'i' ∈ ['a', 'i', 'c'] by decide) first last short
      exact (entersText_invoked ready goesOn invokes).2.1 letter
  · intro start stop first ordered last shortStart shortStop
    obtain ⟨spec, invocation, invokes, letter, rfl, rfl⟩ :=
      opens_numbers ready (show 'c' ∈ ['a', 'i', 'c'] by decide) first ordered last shortStart
        shortStop
    exact (entersText_invoked ready goesOn invokes).2.2 letter

/-- Two lines are changed for another one, whose line end does not count, and changed back. -/
theorem text_entry_exact_change :
    (ofText "one\ntwo\nthree").CommandReady ∧ (ofText "one\ntwo\nthree").session.ended = false ∧
      ((ofText "one\ntwo\nthree").run ["2,3c", "x\r\n", "."]).buffer.lines = ["one", "x"] ∧
      ((ofText "one\ntwo\nthree").run ["2,3c", "x\r\n", "."]).buffer.current = 2 ∧
      (((ofText "one\ntwo\nthree").run ["2,3c", "x\r\n", "."]).next "u").buffer.lines =
        ["one", "two", "three"] := by
  have ready := (reachable_ofText "one\ntwo\nthree").sound.commandReady (by decide +kernel)
  have goesOn : (ofText "one\ntwo\nthree").session.ended = false := by decide +kernel
  have line : toString 2 ++ "," ++ toString 3 ++ "c" = "2,3c" := by decide +kernel
  have others : ∀ text ∈ ["x\r\n"], withoutLineEnd text ≠ EditorM.textEnd := by decide +kernel
  have ends : withoutLineEnd "." = EditorM.textEnd := by decide +kernel
  have enters := (text_entry_exact ready goesOn).2.2 2 3 (by decide) (by decide)
    (by decide +kernel) (by decide +kernel) (by decide +kernel)
  rw [line] at enters
  have entered := enters ["x\r\n"] "." others ends
  rw [List.cons_append, List.singleton_append] at entered
  have undo := entered.undo (by decide +kernel) (by decide +kernel) "u" (by decide +kernel)
    (.inl (by decide +kernel))
  refine ⟨ready, goesOn, ?_, ?_, ?_⟩
  · rw [entered.lines]
    decide +kernel
  · rw [entered.current]
    decide +kernel
  · rw [undo.1]
    decide +kernel

/-- Where there is no room for a step of the history, undo does not take the text back, and where
the session has ended, no text is entered. -/
theorem text_entry_without_room :
    let forgetful : Editor :=
      { ofText "one" with buffer := { Buffer.ofText "one" with history := { limit := 0 } } }
    (forgetful.CommandReady ∧ forgetful.session.ended = false ∧
      (forgetful.run ["1a", "x", "."]).buffer.lines = ["one", "x"] ∧
      (forgetful.run ["1a", "x", "."]).buffer.history.entries = [] ∧
      ((forgetful.run ["1a", "x", "."]).next "u").buffer.lines = ["one", "x"]) ∧
    ((ofText "one").run ["q"]).CommandReady ∧
      ((ofText "one").run ["q", "1a", "x", "."]).buffer.lines = ["one"] := by
  have ready := (reachable_ofText "one").sound.commandReady (by decide +kernel)
  have quit := ((reachable_ofText "one").run ["q"]).sound.commandReady (by decide +kernel)
  have placed : (Buffer.ofText "one").Placed := (fresh_ofText "one").placed
  refine ⟨⟨{ ready with placed := placed, closed := ⟨rfl, rfl⟩ }, by decide +kernel,
    by decide +kernel, by decide +kernel, by decide +kernel⟩, quit, by decide +kernel⟩

end Editor

end LineEditor

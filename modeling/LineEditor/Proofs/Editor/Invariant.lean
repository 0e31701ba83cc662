import LineEditor.Proofs.Editor.Reachable

/-!
# The invariant of an editor

What holds of a reachable editor between any two lines: the current line can be
addressed, a transaction is open exactly while text is being entered, the place
for the text is one in the document, and the history is within its limit
(`Editor.reachable_invariant`).

While text is being entered, no line fails, and any number of lines ends up as
one block at the place for the text (`Editor.TextReady.run_lines`).
-/

set_option autoImplicit false

namespace LineEditor.Editor

variable {editor : Editor}

/-- Lines of a text are inserted one behind the other. -/
theorem TextReady.run_lines (texts : List String) :
    ∀ {editor : Editor}, editor.TextReady →
      (∀ raw ∈ texts, withoutLineEnd raw ≠ EditorM.textEnd) →
      (editor.run texts).TextReady ∧
        (editor.run texts).buffer.lines =
          editor.buffer.lines.take editor.session.insertAfter.toNat ++ texts.map withoutLineEnd ++
            editor.buffer.lines.drop editor.session.insertAfter.toNat := by
  induction texts with
  | nil => exact fun ready _ => ⟨ready, by simp [run]⟩
  | cons raw rest ih =>
      intro editor ready others
      have start := ready.start
      have within := ready.within
      obtain ⟨ready', lines, place, -⟩ :=
        (ready.step raw).2.ready ready (others raw List.mem_cons_self)
      obtain ⟨readyAfter, linesAfter⟩ :=
        ih ready' fun other member => others other (List.mem_cons_of_mem _ member)
      refine ⟨readyAfter, ?_⟩
      have size : (editor.buffer.lines.take editor.session.insertAfter.toNat ++
          [withoutLineEnd raw]).length = (editor.next raw).session.insertAfter.toNat := by
        simp only [Buffer.lineCount, Document.lineCount] at within
        simp only [Buffer.lines, place, List.length_append, List.length_take,
          List.length_singleton]
        omega
      rw [show editor.run (raw :: rest) = (editor.next raw).run rest from rfl, linesAfter, lines,
        linesWith, List.take_left' size, List.drop_left' size]
      simp only [List.map_cons, List.append_assoc, List.singleton_append]

/-- **Between two lines of any session, four things hold.**  The current line can be addressed.
Text is being entered exactly while a transaction is open, and that one is kept open for the text.
Then the place for the text is one in the document, and whatever lines of text are submitted are
inserted there, without an error.  The history is within its limit; a limit below zero counts as
zero. -/
theorem reachable_invariant (reachable : editor.Reachable) :
    (1 ≤ editor.buffer.current ∧ editor.buffer.current ≤ max editor.buffer.lineCount 1) ∧
    ((editor.session.mode = .text ↔ editor.buffer.opened?.isSome) ∧
      (editor.pending = true ↔ editor.buffer.opened?.isSome) ∧ editor.buffer.depth = 0) ∧
    (editor.session.mode = .text →
      (0 ≤ editor.session.insertAfter ∧ editor.session.insertAfter ≤ editor.buffer.lineCount) ∧
      ∀ texts : List String, (∀ raw ∈ texts, withoutLineEnd raw ≠ EditorM.textEnd) →
        (editor.run texts).session.mode = .text ∧
        (editor.run texts).buffer.lines =
          editor.buffer.lines.take editor.session.insertAfter.toNat ++ texts.map withoutLineEnd ++
            editor.buffer.lines.drop editor.session.insertAfter.toNat ∧
        ∀ raw, withoutLineEnd raw ≠ EditorM.textEnd →
          (editor.run texts).answer raw = .ok { kind := .none }) ∧
    ((editor.buffer.history.size : Int) ≤ max editor.buffer.history.limit 0 ∧
      (0 ≤ editor.buffer.history.limit →
        (editor.buffer.history.size : Int) ≤ editor.buffer.history.limit)) := by
  have limited : (editor.buffer.history.size : Int) ≤ max editor.buffer.history.limit 0 ∧
      (0 ≤ editor.buffer.history.limit →
        (editor.buffer.history.size : Int) ≤ editor.buffer.history.limit) := by
    have bounded := reachable.sound.bounded
    simp only [History.Bounded] at bounded
    omega
  cases reachable.sound with
  | command ready bounded =>
      have closed : editor.buffer.opened?.isSome = false := by rw [ready.closed.opened]; rfl
      have other : editor.session.mode ≠ .text := by rw [ready.mode]; decide
      refine ⟨ready.placed, ⟨?_, ?_, ready.closed.depth⟩, fun text => absurd text other,
        limited⟩
      · simp [closed, other]
      · simp [closed, ready.pending]
  | text ready registry fresh edited =>
      have placed := edited.placed ((Buffer.enter_placed fresh.closed _).mpr fresh.placed)
      refine ⟨placed, ⟨?_, ?_, edited.depth_entered fresh.closed⟩,
        fun _ => ⟨⟨ready.start, ready.within⟩, ?_⟩, limited⟩
      · simp [ready.mode, ready.opened]
      · simp [ready.pending, ready.opened]
      · intro texts others
        obtain ⟨readyAfter, lines⟩ := TextReady.run_lines texts ready others
        exact ⟨readyAfter.mode, lines, fun raw _ => (readyAfter.step raw).1⟩

/-- The invariant in the midst of a text, of which one line has been entered. -/
theorem reachable_invariant_entering :
    ((ofText "zero").run ["a", "one"]).Reachable ∧
      ((ofText "zero").run ["a", "one"]).session.mode = .text ∧
      ((ofText "zero").run ["a", "one"]).buffer.current = 2 ∧
      ((ofText "zero").run ["a", "one"]).buffer.opened?.isSome ∧
      (((ofText "zero").run ["a", "one"]).run ["two"]).buffer.lines = ["zero", "one", "two"] := by
  have reachable := (reachable_ofText "zero").run ["a", "one"]
  have entering : ((ofText "zero").run ["a", "one"]).session.mode = .text := by decide +kernel
  have invariant := reachable_invariant reachable
  refine ⟨reachable, entering, by decide +kernel, invariant.2.1.1.mp entering, ?_⟩
  rw [((invariant.2.2.1 entering).2 ["two"] (by decide +kernel)).2.1]
  decide +kernel

end LineEditor.Editor

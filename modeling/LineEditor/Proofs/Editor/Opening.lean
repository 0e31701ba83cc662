import LineEditor.Proofs.Editor.Effects

/-!
# Opening text entry

Three commands open text entry: `a` behind a line, `i` before a line and `c` in
place of lines.  `Editor.Begun` says what such a line leaves behind: the lines
up to a place, those from another place on, and the text to come between them.
For each of the three commands it is worked out where that is
(`Editor.begun_append`, `Editor.begun_insert`, `Editor.begun_change`), whatever
addresses the line is given.
-/

set_option autoImplicit false

namespace LineEditor

namespace Editor

/-- A line has opened text entry: of the lines before, those up to `place` and those behind `resume`
are left, the text goes between them, and the transaction is open. -/
structure Begun (before : Editor) (label : String) (place resume : Nat) (after : Editor) :
    Prop where
  ready : after.TextReady
  kept : before.Kept after
  within : place ≤ before.buffer.lineCount
  edited : ∃ count, (before.buffer.enter label).Edited count after.buffer ∧
    (0 < count ↔ place < min resume before.buffer.lineCount)
  lines : after.buffer.lines = before.buffer.lines.take place ++ before.buffer.lines.drop resume
  place : after.session.insertAfter = place

variable {editor : Editor} {raw : String} {spec : CommandSpec} {invocation : Invocation}

/-- What is invoked is the command that is bound to the letter, with lines that fit. -/
theorem Invokes.planned (invokes : editor.Invokes raw spec invocation)
    (placed : editor.buffer.Placed) :
    (submittedLetter? raw).bind editor.registry.find? = some spec ∧
      invocation.Fits spec.arity editor.buffer.lastLine := by
  obtain ⟨sought, found, fits⟩ :=
    (EditorM.ensures_plan (withoutLineEnd raw) placed).of_ok invokes
  rw [sought.registry] at found
  rw [sought.buffer] at fits
  exact ⟨found, fits⟩

/-- What is invoked in an editor with its own commands is one of them. -/
theorem Invokes.own (invokes : editor.Invokes raw spec invocation) (ready : editor.CommandReady) :
    spec ∈ Registry.ownCommands ∧ invocation.Fits spec.arity editor.buffer.lastLine := by
  obtain ⟨bound, fits⟩ := invokes.planned ready.placed
  rw [ready.registry] at bound
  obtain ⟨letter, -, found⟩ := Option.bind_eq_some_iff.mp bound
  exact ⟨(Registry.find?_own found).1, fits⟩

end Editor

namespace EditorM

variable {editor : Editor} {raw : String} {spec : CommandSpec} {invocation : Invocation}

/-- Text entry is opened behind the nearest line that is there. -/
theorem ensures_openText_at (after : Int) :
    (openText after).Ensures editor
      (fun reply inner =>
        reply = { status := "insert", switchTo? := some Mode.text.name } ∧
        inner = editor.updateSession fun session =>
          { session with insertAfter := max 0 (min after editor.buffer.lineCount) })
      (fun _ _ => False) := by
  simp only [openText, ensures_bind, ensures_get, ensures_modifySession, ensures_pure]
  exact ⟨trivial, trivial⟩

/-- Text entry is opened in place of the lines. -/
theorem ensures_changeLines_at {removed : Buffer}
    (success : editor.buffer.removeRange invocation.start invocation.stop = .ok removed) :
    (changeLines invocation).Ensures editor
      (fun reply inner =>
        reply = { status := "insert", switchTo? := some Mode.text.name } ∧
        inner = ({ editor with buffer := removed } : Editor).updateSession fun session =>
          { session with insertAfter := max 0 (min (invocation.start - 1) removed.lineCount) })
      (fun _ _ => False) := by
  rw [changeLines, ensures_bind, ensures_modifyBuffer_ok success]
  exact ensures_openText_at _

/-- A line that opens text entry does what its handler does in a transaction, which stays open. -/
theorem ensures_submit_opening (ready : editor.CommandReady)
    (goesOn : editor.session.ended = false) (invokes : editor.Invokes raw spec invocation)
    (mutates : spec.mutates = true) {opened : Buffer} {place : Int}
    (handled : ∀ middle : Editor, middle.buffer = editor.buffer.enter spec.letter.toString →
      (spec.handler.run invocation).Ensures middle
        (fun reply inner =>
          reply = { status := "insert", switchTo? := some Mode.text.name } ∧
          inner = ({ middle with buffer := opened } : Editor).updateSession fun session =>
            { session with insertAfter := place })
        (fun _ _ => False)) :
    (submit raw).Ensures editor
      (fun _ after => editor.Kept after ∧ after.buffer = opened ∧ after.pending = true ∧
        after.session.mode = .text ∧ after.session.insertAfter = place ∧
        after.session.ended = false)
      (fun _ _ => False) := by
  have active := ready.modes.active_command ready.mode
  refine ensures_submit_dispatch ⟨active, goesOn⟩ fun journal =>
    ensures_dispatch_invokes invokes fun middle sought => ?_
  obtain ⟨lastSearch?, journal, rfl⟩ := sought
  rw [invoke, if_pos mutates, ensures_transaction, call, ensures_span]
  refine (handled _ ?_).mono ?_ (fun _ _ impossible => impossible.elim)
  · rfl
  · rintro reply inner ⟨rfl, rfl⟩ journal
    have opens : opensText { status := "insert", switchTo? := some Mode.text.name } = true := by
      decide
    rw [if_pos opens]
    refine Ensures.mono (ensures_conclude_text ?_ ?_ ?_ rfl rfl rfl) ?_
      (fun _ _ impossible => impossible)
    · exact ready.modes
    · exact ready.mode
    · exact by decide
    rintro output after ⟨-, steady, session, -⟩
    refine ⟨(Editor.Kept.inside editor ..).trans steady.kept, steady.buffer, steady.pending, ?_,
      ?_, ?_⟩
    · rw [session]
    · rw [session]
      rfl
    · rw [session]
      exact goesOn

end EditorM

section Entered

variable {buffer : Buffer} (closed : buffer.Closed) (label : String)
include closed

@[simp] theorem Buffer.enter_lines : (buffer.enter label).lines = buffer.lines :=
  congrArg Document.lines (enter_document closed label)

@[simp] theorem Buffer.enter_lineCount : (buffer.enter label).lineCount = buffer.lineCount :=
  congrArg Document.lineCount (enter_document closed label)

@[simp] theorem Buffer.enter_lastLine : (buffer.enter label).lastLine = buffer.lastLine := by
  rw [lastLine, enter_lineCount closed, lastLine]

end Entered

/-- The lines up to a place are there when lines behind them have been cut out. -/
theorem Buffer.le_lineCount_of_cut {before after : Buffer} {place resume : Nat}
    (within : place ≤ before.lineCount)
    (lines : after.lines = before.lines.take place ++ before.lines.drop resume) :
    place ≤ after.lineCount := by
  have size : after.lineCount =
      (before.lines.take place).length + (before.lines.drop resume).length :=
    (congrArg List.length lines).trans List.length_append
  have cut : (before.lines.take place).length = place := List.length_take_of_le within
  omega

/-- The letters of the commands that open text entry. -/
theorem Registry.own_openings : ∀ spec ∈ Registry.ownCommands,
    (spec.letter = 'a' → spec.handler = .builtin .appendText ∧ spec.mutates = true) ∧
    (spec.letter = 'i' → spec.handler = .builtin .insertText ∧ spec.mutates = true) ∧
    (spec.letter = 'c' → spec.handler = .builtin .changeLines ∧ spec.mutates = true) := by
  decide

namespace Editor

variable {editor : Editor} {raw : String} {spec : CommandSpec} {invocation : Invocation}

section Opening

variable (ready : editor.CommandReady) (goesOn : editor.session.ended = false)
  (invokes : editor.Invokes raw spec invocation)
include ready goesOn invokes

/-- Text entry begins with the buffer that the handler leaves, at the place that it sets. -/
theorem begun_opened (mutates : spec.mutates = true) {opened : Buffer} {count place resume : Nat}
    (edited : (editor.buffer.enter spec.letter.toString).Edited count opened)
    (counted : 0 < count ↔ place < min resume editor.buffer.lineCount)
    (lines : opened.lines = editor.buffer.lines.take place ++ editor.buffer.lines.drop resume)
    (within : place ≤ editor.buffer.lineCount)
    (handled : ∀ middle : Editor, middle.buffer = editor.buffer.enter spec.letter.toString →
      (spec.handler.run invocation).Ensures middle
        (fun reply inner =>
          reply = { status := "insert", switchTo? := some Mode.text.name } ∧
          inner = ({ middle with buffer := opened } : Editor).updateSession fun session =>
            { session with insertAfter := place })
        (fun _ _ => False)) :
    editor.Begun spec.letter.toString place resume (editor.next raw) := by
  refine EditorM.Ensures.run
    (fun _ after => editor.Begun spec.letter.toString place resume after)
    ((EditorM.ensures_submit_opening ready goesOn invokes mutates handled).mono ?_
      (fun _ _ impossible => impossible.elim))
  rintro output after ⟨kept, rfl, pending, mode, isPlace, goesOn⟩
  have room := Buffer.le_lineCount_of_cut within lines
  refine ⟨⟨kept.modes.trans ready.modes, mode, pending, ?_, ?_, ?_, goesOn⟩, kept, within,
    ⟨count, edited, counted⟩, lines, isPlace⟩
  · rw [edited.opened_entered ready.closed]
    rfl
  · omega
  · omega

/-- Text entry begins behind a line, and no line is removed for it. -/
theorem begun_behind (mutates : spec.mutates = true) {after : Int}
    (handler : spec.handler.run invocation = EditorM.openText after) {place : Nat}
    (isPlace : max 0 (min after editor.buffer.lineCount) = (place : Int)) :
    editor.Begun spec.letter.toString place place (editor.next raw) := by
  have count := Buffer.enter_lineCount ready.closed spec.letter.toString
  refine begun_opened ready goesOn invokes mutates (.refl _) ?_ ?_ ?_ ?_
  · omega
  · rw [Buffer.enter_lines ready.closed, List.take_append_drop]
  · omega
  · rintro middle same
    rw [handler]
    refine (EditorM.ensures_openText_at after).mono ?_ (fun _ _ impossible => impossible)
    rintro reply inner ⟨isReply, isInner⟩
    refine ⟨isReply, ?_⟩
    rw [isInner, ← isPlace, ← count, ← same]

/-- Text is appended behind a line, or at the start of an empty buffer. -/
theorem begun_append (letter : spec.letter = 'a') :
    editor.Begun spec.letter.toString (min invocation.start editor.buffer.lineCount)
      (min invocation.start editor.buffer.lineCount) (editor.next raw) := by
  obtain ⟨own, fits⟩ := invokes.own ready
  obtain ⟨handler, mutates⟩ := (Registry.own_openings spec own).1 letter
  refine begun_behind ready goesOn invokes mutates (by rw [handler]; rfl) ?_
  omega

/-- Text is inserted before a line. -/
theorem begun_insert (letter : spec.letter = 'i') :
    editor.Begun spec.letter.toString (invocation.start - 1) (invocation.start - 1)
      (editor.next raw) := by
  obtain ⟨own, fits⟩ := invokes.own ready
  obtain ⟨handler, mutates⟩ := (Registry.own_openings spec own).2.1 letter
  have first := fits.first
  have last := Nat.le_trans fits.ordered fits.last
  rw [Buffer.lastLine] at last
  refine begun_behind ready goesOn invokes mutates (by rw [handler]; rfl) ?_
  omega

/-- Text takes the place of lines, of which an empty buffer has none. -/
theorem begun_change (letter : spec.letter = 'c') :
    editor.Begun spec.letter.toString (invocation.start - 1) invocation.stop
      (editor.next raw) := by
  obtain ⟨own, fits⟩ := invokes.own ready
  obtain ⟨handler, mutates⟩ := (Registry.own_openings spec own).2.2 letter
  have first := fits.first
  have ordered := fits.ordered
  have last := fits.last
  have highest := Buffer.enter_lastLine ready.closed spec.letter.toString
  have entered : (editor.buffer.enter spec.letter.toString).opened?.isSome := by
    rw [Buffer.enter_opened? ready.closed]
    rfl
  obtain ⟨removed, success, edited, removedLines⟩ :=
    Buffer.removeRange_within entered first ordered (highest.symm ▸ last)
  rw [Buffer.enter_lines ready.closed] at removedLines
  rw [Buffer.enter_lineCount ready.closed] at edited
  rw [Buffer.lastLine] at last
  have within : invocation.start - 1 ≤ editor.buffer.lineCount := by omega
  have room := Buffer.le_lineCount_of_cut within removedLines
  refine begun_opened ready goesOn invokes mutates edited ?_ removedLines within ?_
  · split <;> omega
  · rintro middle same
    rw [handler]
    rw [← same] at success
    refine (EditorM.ensures_changeLines_at success).mono ?_ (fun _ _ impossible => impossible)
    rintro reply inner ⟨isReply, isInner⟩
    refine ⟨isReply, ?_⟩
    have isPlace : max 0 (min ((invocation.start : Int) - 1) removed.lineCount) =
        ((invocation.start - 1 : Nat) : Int) := by
      omega
    rw [isInner, isPlace]

end Opening

end Editor

end LineEditor

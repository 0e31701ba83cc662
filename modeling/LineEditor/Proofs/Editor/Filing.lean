import LineEditor.Proofs.Buffer.Composition
import LineEditor.Proofs.Buffer.Filing
import LineEditor.Proofs.Editor.Effects
import LineEditor.Proofs.Editor.Numbered

/-!
# The commands for files

A line that invokes `w` saves the buffer and shows the number of characters if
the buffer can be saved, and is answered with an error or escapes if it cannot
(`EditorM.ensures_submit_write`).  A line that invokes `r`, with the path of a
file that can be read, inserts the lines of the file and shows the number of its
characters (`EditorM.ensures_submit_read`).

For such a line it is enough to know its letter and what follows
(`Editor.invokes_write`, `Editor.invokes_read`).  Nothing is assumed of the
buffer.
-/

set_option autoImplicit false

namespace LineEditor

/-! ## Transactions -/

namespace Buffer

variable (buffer : Buffer) (label : String)

theorem enter_keeps : (buffer.enter label).document = buffer.document ∧
    (buffer.enter label).opened?.isSome := by
  cases already : buffer.opened? with
  | none => simp [enter, already]
  | some checkpoint => simp [enter, already]

theorem enter_current : (buffer.enter label).current = buffer.current := by
  cases already : buffer.opened? with
  | none => simp [enter, already]
  | some checkpoint => simp [enter, already]

theorem commit_current : buffer.commit.current = buffer.current := by
  rw [commit]
  split
  · rfl
  · rfl
  · dsimp only
    split
    · rfl
    · rfl

/-- Lines have been inserted behind a line, or as far behind as there are lines; if there are any,
the last one of them is the current line. -/
structure Inserted (before : Buffer) (line : Nat) (new : List String) (after : Buffer) : Prop where
  lines : after.lines =
    before.lines.take (min line before.lineCount) ++ new ++
      before.lines.drop (min line before.lineCount)
  current : new ≠ [] → after.current = min line before.lineCount + new.length

/-- What is inserted within a transaction is inserted by it. -/
theorem Inserted.committed {buffer after : Buffer} {label : String} {line : Nat} {new : List String}
    (inserted : (buffer.enter label).Inserted line new after) :
    buffer.Inserted line new after.commit := by
  have document := (buffer.enter_keeps label).1
  have sameLines : (buffer.enter label).lines = buffer.lines := congrArg Document.lines document
  have sameCount : (buffer.enter label).lineCount = buffer.lineCount :=
    congrArg Document.lineCount document
  obtain ⟨lines, current⟩ := inserted
  rw [sameLines, sameCount] at lines
  rw [sameCount] at current
  exact ⟨(congrArg Document.lines after.commit_document).trans lines,
    fun some => after.commit_current.trans (current some)⟩

end Buffer

namespace EditorM

open Editor (AwaitsCommand)

variable {editor : Editor} {raw : String} {spec : CommandSpec} {invocation : Invocation}

/-! ## Writing -/

/-- The path that a line gives for writing, if it gives one. -/
def givenPath? (args : String) : Option String :=
  if (Text.strip args).isEmpty then none else some (Text.strip args)

/-- Saving in an editor is saving the buffer on its disk; if that fails, only the log has grown. -/
theorem ensures_saveBuffer_exact (path? : Option String) :
    (saveBuffer path?).Ensures editor
      (fun count after => ∃ saved disk journal,
        editor.buffer.save editor.platform.codecs editor.disk path? = .ok (count, saved, disk) ∧
        after = { editor with buffer := saved, disk, journal })
      (fun _ after =>
        (∀ result, editor.buffer.save editor.platform.codecs editor.disk path? ≠ .ok result) ∧
        ∃ journal, after = { editor with journal }) := by
  simp only [saveBuffer, saveJob, ensures_bind, ensures_get]
  cases prepared : editor.buffer.prepareSave editor.platform.codecs path? with
  | error fault =>
      have fails : ∀ result,
          editor.buffer.save editor.platform.codecs editor.disk path? ≠ .ok result := by
        rintro ⟨count, saved, after⟩ success
        obtain ⟨job, isJob, -⟩ := Buffer.save_eq_ok_iff.mp success
        rw [prepared] at isJob
        cases isJob
      split
      · rename_i same
        cases same
      · exact (ensures_refuse _).mpr ⟨fails, editor.journal, rfl⟩
      · exact (ensures_throw _).mpr ⟨fails, editor.journal, rfl⟩
  | ok job =>
      simp only [writeBytes, ensures_pure, ensures_get, ensures_span, ensures_bind, ensures_lift,
        ensures_set, ensures_modifyBuffer]
      refine ⟨fun disk written => ⟨?_, fun fault failed => by cases failed⟩, ?_⟩
      · intro saved marked
        cases marked
        exact ⟨_, _, _, Buffer.save_eq_ok_iff.mpr ⟨job, prepared, written, rfl, rfl⟩, rfl⟩
      · intro fault failed
        refine ⟨?_, _, rfl⟩
        rintro ⟨count, saved, after⟩ success
        obtain ⟨other, isJob, written, -⟩ := Buffer.save_eq_ok_iff.mp success
        rw [prepared] at isJob
        cases isJob
        rw [failed] at written
        cases written

/-- **A line that writes the buffer saves it**, shows the number of characters and changes nothing
else of the buffer or the disk; or the buffer cannot be saved, and the line fails. -/
theorem ensures_submit_write (awaits : editor.AwaitsCommand)
    (invokes : editor.Invokes raw spec invocation) (handler : spec.handler = .builtin .writeFile)
    (keeps : spec.mutates = false) :
    (submit raw).Ensures editor
      (fun output after =>
        (∃ count saved disk,
          editor.buffer.save editor.platform.codecs editor.disk (givenPath? invocation.args) =
            .ok (count, saved, disk) ∧
          output = { kind := .text, lines := [toString count] } ∧
          after.buffer = saved ∧ after.disk = disk) ∨
        (∀ result, editor.buffer.save editor.platform.codecs editor.disk
          (givenPath? invocation.args) ≠ .ok result) ∧
          output.kind = .error)
      (fun _ _ =>
        ∀ result, editor.buffer.save editor.platform.codecs editor.disk
          (givenPath? invocation.args) ≠ .ok result) := by
  refine ensures_submit_dispatch awaits fun journal =>
    ensures_dispatch_invokes invokes fun middle sought => ?_
  obtain ⟨lastSearch?, journal, rfl⟩ := sought
  rw [invoke, if_neg (by simp [keeps]), call, ensures_span, handler]
  simp only [Handler.run, Builtin.run, writeFile, ensures_bind, ensures_refusingFiles, ensures_pure]
  refine (ensures_saveBuffer_exact _).mono ?_ ?_
  · rintro count inner ⟨saved, disk, journal, success, rfl⟩ journal
    rw [ensures_conclude_shown rfl rfl]
    exact .inl ⟨count, saved, disk, success, by simp [Reply.shown], rfl, rfl⟩
  · rintro fault inner ⟨fails, -⟩ journal
    exact ⟨fun refusal _ => .inr ⟨fails, rfl⟩, fun _ => fails⟩

/-! ## Reading -/

/-- The lines of a file are inserted where the transaction is open. -/
theorem ensures_readFile_exact (opened : editor.buffer.opened?.isSome) {path text : String}
    (isPath : Text.strip invocation.args = path) (present : path ≠ "")
    (long : 2 ≤ invocation.args.length)
    (readable :
      editor.disk.readText editor.platform.codecs path editor.config.encoding = .ok text) :
    (readFile invocation).Ensures editor
      (fun reply after => reply = { status := "read", output := [toString text.length] } ∧
        ∃ buffer, after = { editor with buffer } ∧
          editor.buffer.Inserted invocation.start (Text.splitLines text) buffer)
      (fun _ _ => False) := by
  have accepted : ¬(invocation.args.length < 2 ∨ path.isEmpty = true) := by
    rw [not_or, String.isEmpty_iff]
    exact ⟨by omega, present⟩
  obtain ⟨buffer, success, -, lines, current⟩ :=
    Buffer.insertText_within opened invocation.start text
  simp only [readFile, fileText, isPath, ensures_bind, ensures_refusingFiles, ensures_get,
    if_neg accepted, ensures_pure, readable, ensures_lift, Except.ok.injEq, forall_eq', reduceCtorEq,
    false_implies, implies_true, and_true]
  rw [ensures_modifyBuffer_ok success]
  exact ⟨trivial, buffer, rfl, ⟨lines, current⟩⟩

/-- The file is read in a transaction. -/
theorem ensures_invoke_read (handler : spec.handler = .builtin .readFile)
    (mutates : spec.mutates = true) {path text : String}
    (isPath : Text.strip invocation.args = path) (present : path ≠ "")
    (long : 2 ≤ invocation.args.length)
    (readable :
      editor.disk.readText editor.platform.codecs path editor.config.encoding = .ok text) :
    (invoke spec invocation).Ensures editor
      (fun reply after => reply = { status := "read", output := [toString text.length] } ∧
        editor.buffer.Inserted invocation.start (Text.splitLines text) after.buffer)
      (fun _ _ => False) := by
  have opened := (editor.buffer.enter_keeps spec.letter.toString).2
  rw [invoke, if_pos mutates, ensures_transaction, call, ensures_span, handler]
  refine Ensures.mono (ensures_readFile_exact opened isPath present long readable) ?_
    (fun _ _ impossible => impossible)
  rintro reply inner ⟨rfl, buffer, rfl, inserted⟩
  refine ⟨rfl, ?_⟩
  rw [if_neg (by simp [opensText])]
  obtain ⟨change, left⟩ := Editor.leaveTransaction_eq (Editor.updateJournal _ _) true
  rw [left]
  exact inserted.committed

/-- **A line that reads a file inserts its lines** behind the line it is given, or as far behind as
there are lines, and shows the number of characters. -/
theorem ensures_submit_read (awaits : editor.AwaitsCommand)
    (invokes : editor.Invokes raw spec invocation) (handler : spec.handler = .builtin .readFile)
    (mutates : spec.mutates = true) {path text : String}
    (isPath : Text.strip invocation.args = path) (present : path ≠ "")
    (long : 2 ≤ invocation.args.length)
    (readable :
      editor.disk.readText editor.platform.codecs path editor.config.encoding = .ok text) :
    (submit raw).Ensures editor
      (fun output after => output = { kind := .text, lines := [toString text.length] } ∧
        editor.buffer.Inserted invocation.start (Text.splitLines text) after.buffer)
      (fun _ _ => False) := by
  refine ensures_submit_dispatch awaits fun journal =>
    ensures_dispatch_invokes invokes fun middle sought => ?_
  obtain ⟨lastSearch?, journal, rfl⟩ := sought
  refine Ensures.mono (ensures_invoke_read handler mutates isPath present long readable) ?_
    (fun _ _ impossible => impossible.elim)
  rintro reply inner ⟨rfl, inserted⟩ journal
  rw [ensures_conclude_shown rfl rfl]
  exact ⟨by simp [Reply.shown], inserted⟩

end EditorM

/-! ## Lines -/

/-- What a command is bound to, but for its description. -/
def CommandSpec.binding (spec : CommandSpec) : Arity × Handler × Bool :=
  (spec.arity, spec.handler, spec.mutates)

/-- The commands that write and read files. -/
theorem Registry.own_filing :
    (Registry.own.find? 'w').map CommandSpec.binding =
      some (.ignored, .builtin .writeFile, false) ∧
    (Registry.own.find? 'r').map CommandSpec.binding =
      some (.oneAddress, .builtin .readFile, true) := by
  decide

namespace Editor

variable {editor : Editor} {args : String} (own : editor.registry = Registry.own)
include own

/-- A line that begins with `w` writes the buffer. -/
theorem invokes_write (whole : withoutLineEnd ("w" ++ args) = "w" ++ args) :
    ∃ spec invocation, editor.Invokes ("w" ++ args) spec invocation ∧
      spec.handler = .builtin .writeFile ∧ spec.mutates = false ∧ invocation.args = args := by
  obtain ⟨spec, found, bound⟩ := Option.map_eq_some_iff.mp Registry.own_filing.1
  simp only [CommandSpec.binding, Prod.mk.injEq] at bound
  obtain ⟨arity, handler, keeps⟩ := bound
  have chars : ("w" ++ args).toList = 'w' :: args.toList := by simp
  let invocation : Invocation :=
    { letter := spec.letter, args, start := editor.buffer.current, addressed := false
      finish? := none }
  refine ⟨spec, invocation, invokes_rest chars (by decide) ?_ whole ?_, handler, keeps, rfl⟩
  · rw [own]
    exact found
  · simp [CommandSpec.bindLines, arity, invocation]

/-- A line that consists of a number, `r` and what follows reads a file. -/
theorem invokes_read {number : Nat}
    (whole : withoutLineEnd (toString number ++ ("r" ++ args)) = toString number ++ ("r" ++ args))
    (short : (toString number).length ≤ Text.digitLimit) (first : 1 ≤ number)
    (last : number ≤ editor.buffer.lastLine) :
    ∃ spec invocation, editor.Invokes (toString number ++ ("r" ++ args)) spec invocation ∧
      spec.handler = .builtin .readFile ∧ spec.mutates = true ∧ invocation.args = args ∧
      invocation.start = number := by
  obtain ⟨spec, found, bound⟩ := Option.map_eq_some_iff.mp Registry.own_filing.2
  simp only [CommandSpec.binding, Prod.mk.injEq] at bound
  obtain ⟨arity, handler, mutates⟩ := bound
  have chars : ("r" ++ args).toList = 'r' :: args.toList := by simp
  let invocation : Invocation :=
    { letter := spec.letter, args, start := number, addressed := true, finish? := none }
  refine ⟨spec, invocation, invokes_number_rest chars (by decide) ?_ whole short first last ?_,
    handler, mutates, rfl, rfl⟩
  · rw [own]
    exact found
  · simp [CommandSpec.bindLines, arity, invocation]

end Editor

end LineEditor

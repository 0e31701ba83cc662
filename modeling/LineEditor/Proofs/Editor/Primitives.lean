import LineEditor.Proofs.Buffer.Searching
import LineEditor.Proofs.Buffer.Validity
import LineEditor.Proofs.Editor.Filing
import LineEditor.Proofs.Editor.RolledBack

/-!
# Buffers at large

What a buffer offers can be used by anyone, in any order and with any arguments:
inserting and deleting lines, moving the current line, reading, searching,
saving, taking changes back, and transactions that are opened and left in either
way (`Primitive`).  Some of it fails, and `Primitive.Fails` says when.

However a buffer is used from its beginning on, its current line can be
addressed, its history is within its limit, and what fails leaves the buffer and
the disk as they were (`Primitive.Sound`).  The limit is that of the history the
buffer has, which is not the one it was made with: a buffer that is made with a
history without entries gets another one, with the usual limit of 256 entries.
So the limit that was asked for is kept exactly if it is no smaller
(`Primitive.perform_sound`).
-/

set_option autoImplicit false

namespace LineEditor

namespace Buffer

/-- There is a path to save to, the encoding is known and has all characters of the text, and the
file can be written. -/
def Savable (codecs : String → Option Text.Coding) (buffer : Buffer) (disk : Disk)
    (path? : Option String) : Prop :=
  ∃ target coding bytes after, buffer.target? path? = some target ∧
    Disk.codingNamed codecs buffer.encoding = .ok coding ∧
    coding.encode? buffer.text = some bytes ∧ disk.write target bytes = .ok after

theorem savable_iff {codecs : String → Option Text.Coding} {buffer : Buffer} {disk : Disk}
    {path? : Option String} :
    buffer.Savable codecs disk path? ↔ ∃ result, buffer.save codecs disk path? = .ok result := by
  constructor
  · rintro ⟨target, coding, bytes, after, isTarget, named, encoded, written⟩
    have prepared : buffer.prepareSave codecs path? = .ok ⟨target, bytes, buffer.text.length⟩ :=
      prepareSave_eq_ok_iff.mpr ⟨isTarget, rfl, coding, named, encoded⟩
    exact ⟨_, save_eq_ok_iff.mpr ⟨_, prepared, written, rfl, rfl⟩⟩
  · rintro ⟨⟨count, saved, after⟩, success⟩
    obtain ⟨job, prepared, written, -, -⟩ := save_eq_ok_iff.mp success
    obtain ⟨isTarget, -, coding, named, encoded⟩ := prepareSave_eq_ok_iff.mp prepared
    exact ⟨job.target, coding, job.bytes, after, isTarget, named, encoded, written⟩

/-- A line that is put at the top while no transaction is open is a step of the history. -/
theorem insertLines_top {buffer : Buffer} (closed : buffer.Closed) (line : String) :
    ∃ after, buffer.insertLines 0 [line] = .ok after ∧ after.Closed ∧
      after.history = buffer.history.push (buffer.entry "insert_lines") := by
  have within : buffer.checkLine 0 0 = .ok () := if_neg (by omega)
  have inserted : buffer.insertLines 0 [line] = .ok (buffer.edit "insert_lines" fun opened =>
      opened.apply (opened.document.update 0 0 [line])) := by
    rw [insertLines, within]
    rfl
  have changed : ¬buffer.document.version + 1 = buffer.document.version := by omega
  refine ⟨_, inserted, ?_⟩
  rw [edit, closed.opened, enter_closed closed, commit_outermost rfl rfl]
  exact ⟨⟨rfl, rfl⟩, if_neg changed⟩

/-! ## When the primitives fail -/

variable {buffer : Buffer}

theorem checkLine_eq_ok_iff {lowest line : Int} :
    buffer.checkLine lowest line = .ok () ↔ lowest ≤ line ∧ line ≤ buffer.lineCount := by
  refine ⟨checkLine_ok, fun within => ?_⟩
  rw [checkLine, if_neg (by omega)]

theorem checkRange_eq_ok_iff {start finish : Int} :
    buffer.checkRange start finish = .ok () ↔
      1 ≤ start ∧ start ≤ finish ∧ finish ≤ buffer.lineCount := by
  refine ⟨checkRange_ok, fun within => ?_⟩
  rw [checkRange, checkLine_eq_ok_iff.mpr (by omega), checkLine_eq_ok_iff.mpr (by omega)]
  simp only [bind, Except.bind]
  rw [if_neg (by omega)]
  rfl

theorem setCurrent_succeeds_iff {line : Int} :
    (∃ after, buffer.setCurrent line = .ok after) ↔ 1 ≤ line ∧ line ≤ max buffer.lineCount 1 := by
  rw [setCurrent]
  by_cases out : line < 1 ∨ line > buffer.lastLine
  · rw [if_pos out]
    simp only [lastLine] at out
    simp only [reduceCtorEq, exists_false, false_iff]
    omega
  · rw [if_neg out]
    simp only [lastLine] at out
    simp only [Except.ok.injEq, exists_eq', true_iff]
    omega

theorem insertLines_succeeds_iff {place : Int} (lines : List String) :
    (∃ after, buffer.insertLines place lines = .ok after) ↔
      0 ≤ place ∧ place ≤ buffer.lineCount := by
  rw [insertLines, ← checkLine_eq_ok_iff]
  cases buffer.checkLine 0 place with
  | error fault => simp [bind, Except.bind]
  | ok checked =>
      simp only [bind, Except.bind, pure, Except.pure]
      split <;> simp

theorem deleteRange_succeeds_iff {start finish : Int} :
    (∃ after, buffer.deleteRange start finish = .ok after) ↔
      1 ≤ start ∧ start ≤ finish ∧ finish ≤ buffer.lineCount := by
  rw [deleteRange, ← checkRange_eq_ok_iff]
  cases buffer.checkRange start finish with
  | error fault => simp [bind, Except.bind]
  | ok checked => simp [bind, Except.bind, pure, Except.pure]

theorem readRange_succeeds_iff {start finish : Int} :
    (∃ lines, buffer.readRange start finish = .ok lines) ↔
      buffer.lineCount = 0 ∨ 1 ≤ start ∧ start ≤ finish ∧ finish ≤ buffer.lineCount := by
  rw [readRange, ← checkRange_eq_ok_iff]
  split
  · rename_i empty
    simp [empty]
  · rename_i some
    cases buffer.checkRange start finish with
    | error fault => simp [some, bind, Except.bind]
    | ok checked => simp [bind, Except.bind, pure, Except.pure]

end Buffer

/-! ## Uses of a buffer -/

/-- One use of a buffer.  A forward search starts at a line number that is not negative. -/
inductive Primitive where
  | insertLines (after : Int) (lines : List String)
  | deleteRange (start finish : Int)
  | setCurrent (line : Int)
  | readRange (start finish : Int)
  | searchForward (pattern : String) (origin : Nat)
  | searchBackward (pattern : String) (origin : Int)
  | save (path? : Option String)
  | undo
  | enter (label : String)
  | leave (succeeded : Bool)

namespace Primitive

open EditorM

/-- The pattern that a text writes, or the fault that there is none. -/
def compile (engine : Pattern.Engine) (pattern : String) : Except Fault Pattern.Compiled :=
  (Pattern.read engine pattern).mapError Fault.ofPattern

/-- What a use does in an editor with the buffer. -/
def work : Primitive → EditorM Unit
  | .insertLines after lines => EditorM.insertLines after lines
  | .deleteRange start finish => EditorM.deleteRange start finish
  | .setCurrent line => EditorM.setCurrent line
  | .readRange start finish => do
    let editor ← get
    let _ ← (editor.buffer.readRange start finish : Except Fault (List String))
  | .searchForward pattern origin => do
    let editor ← get
    let compiled ← (compile editor.platform.engine pattern : Except Fault Pattern.Compiled)
    let _ ← (editor.buffer.searchForward compiled.pattern origin : Except Fault (Option Int))
  | .searchBackward pattern origin => do
    let editor ← get
    let compiled ← (compile editor.platform.engine pattern : Except Fault Pattern.Compiled)
    let _ := editor.buffer.searchBackward compiled.pattern origin
  | .save path? => do
    let _ ← saveBuffer path?
  | .undo => modify fun editor => { editor with buffer := editor.buffer.undo?.getD editor.buffer }
  | .enter label => modify (·.enterTransaction label)
  | .leave succeeded => modify (·.leaveTransaction succeeded)

/-- The editor after a use, whether it has failed or not. -/
def perform (editor : Editor) (primitive : Primitive) : Editor :=
  (primitive.work.runOn editor).2

/-- When a use fails: because a line is out of range, because a range is reversed, because a text
writes no pattern, or because the buffer cannot be saved. -/
def Fails (editor : Editor) : Primitive → Prop
  | .insertLines after _ => ¬(0 ≤ after ∧ after ≤ editor.buffer.lineCount)
  | .deleteRange start finish =>
    ¬(1 ≤ start ∧ start ≤ finish ∧ finish ≤ editor.buffer.lineCount)
  | .setCurrent line => ¬(1 ≤ line ∧ line ≤ max editor.buffer.lineCount 1)
  | .readRange start finish =>
    ¬(editor.buffer.lineCount = 0 ∨ 1 ≤ start ∧ start ≤ finish ∧ finish ≤ editor.buffer.lineCount)
  | .searchForward pattern _ | .searchBackward pattern _ =>
    ¬∃ compiled, Pattern.read editor.platform.engine pattern = .ok compiled
  | .save path? => ¬editor.buffer.Savable editor.platform.codecs editor.disk path?
  | .undo | .enter _ | .leave _ => False

variable {editor : Editor} {limit : Int}

theorem compile_eq_ok_iff {engine : Pattern.Engine} {pattern : String}
    {compiled : Pattern.Compiled} :
    compile engine pattern = .ok compiled ↔ Pattern.read engine pattern = .ok compiled := by
  rw [compile]
  cases Pattern.read engine pattern <;> simp [Except.mapError]

/-- A change of the buffer that keeps it valid and otherwise leaves the editor as it is. -/
theorem ensures_editBuffer_valid {label : String} {hasEffect : Bool}
    {change : Buffer → Except Fault Buffer} (valid : editor.buffer.Valid limit)
    (keeps : Buffer.Respects (fun before after => before.Valid limit → after.Valid limit) change) :
    (editBuffer label hasEffect change).Ensures editor
      (fun _ after => (∃ buffer, change editor.buffer = .ok buffer) ∧ after.buffer.Valid limit)
      (fun _ after => (¬∃ buffer, change editor.buffer = .ok buffer) ∧
        after.buffer = editor.buffer ∧ after.disk = editor.disk) := by
  refine ensures_editBuffer.mono (fun _ after success => ?_) fun fault after failed => ?_
  · exact ⟨⟨_, success⟩, keeps _ _ success valid⟩
  · obtain ⟨fails, rfl⟩ := failed
    exact ⟨by simp [fails], rfl, rfl⟩

/-- A reading of the buffer, which changes nothing. -/
theorem ensures_reading {α : Type} {outcome : Except Fault α} (valid : editor.buffer.Valid limit) :
    (do let _ ← (outcome : Except Fault α) : EditorM Unit).Ensures editor
      (fun _ after => (∃ result, outcome = .ok result) ∧ after.buffer.Valid limit)
      (fun _ after => (¬∃ result, outcome = .ok result) ∧
        after.buffer = editor.buffer ∧ after.disk = editor.disk) := by
  simp only [ensures_bind, ensures_lift, ensures_pure]
  refine ⟨fun result success => ⟨⟨result, success⟩, valid⟩, fun fault failed => ?_⟩
  exact ⟨by simp [failed], trivial, trivial⟩

/-- A use fails exactly when it says so, and then nothing has happened; else the buffer is still
valid. -/
theorem ensures_work (valid : editor.buffer.Valid limit) (primitive : Primitive) :
    primitive.work.Ensures editor
      (fun _ after => ¬primitive.Fails editor ∧ after.buffer.Valid limit)
      (fun _ after => primitive.Fails editor ∧
        after.buffer = editor.buffer ∧ after.disk = editor.disk) := by
  have keeps := Buffer.primitives_keep_valid limit
  cases primitive with
  | insertLines after lines =>
      simp only [Fails, Classical.not_not, ← Buffer.insertLines_succeeds_iff lines]
      exact ensures_editBuffer_valid valid (keeps.insertLines (fun _ => after) lines)
  | deleteRange start finish =>
      simp only [Fails, Classical.not_not, ← Buffer.deleteRange_succeeds_iff]
      exact ensures_editBuffer_valid valid (keeps.deleteRange start finish)
  | setCurrent line =>
      simp only [Fails, Classical.not_not, ← Buffer.setCurrent_succeeds_iff]
      rw [work, EditorM.setCurrent, ensures_modifyBuffer]
      refine ⟨fun buffer success => ?_, fun fault failed => ⟨by simp [failed], rfl, rfl⟩⟩
      exact ⟨⟨buffer, success⟩, keeps.setCurrent (fun _ => line) _ _ success valid⟩
  | readRange start finish =>
      simp only [Fails, Classical.not_not, ← Buffer.readRange_succeeds_iff]
      rw [work, ensures_bind, ensures_get]
      exact ensures_reading valid
  | searchForward pattern origin =>
      simp only [Fails, Classical.not_not, ← compile_eq_ok_iff, work, ensures_bind, ensures_get,
        ensures_lift, ensures_pure]
      refine ⟨fun compiled isPattern => ⟨fun _ _ => ⟨⟨compiled, isPattern⟩, valid⟩, ?_⟩,
        fun fault failed => ⟨by simp [failed], trivial, trivial⟩⟩
      -- A search from a line that is there, or from the top, only looks at lines that are there.
      intro fault failed
      rcases Buffer.findForward_spec editor.buffer (Buffer.lineMatches compiled.pattern)
        (Int.natCast_nonneg origin) with ⟨number, found, -⟩ | ⟨found, -⟩
      · rw [Buffer.searchForward, found] at failed
        cases failed
      · rw [Buffer.searchForward, found] at failed
        cases failed
  | searchBackward pattern origin =>
      simp only [Fails, Classical.not_not, ← compile_eq_ok_iff, work, ensures_bind, ensures_get,
        ensures_lift, ensures_pure]
      exact ⟨fun compiled isPattern => ⟨⟨compiled, isPattern⟩, valid⟩,
        fun fault failed => ⟨by simp [failed], trivial, trivial⟩⟩
  | save path? =>
      simp only [Fails, Classical.not_not, Buffer.savable_iff, work, ensures_bind, ensures_pure]
      refine (ensures_saveBuffer_exact path?).mono ?_ ?_
      · rintro count after ⟨saved, disk, journal, success, rfl⟩
        obtain ⟨job, -, -, -, rfl⟩ := Buffer.save_eq_ok_iff.mp success
        exact ⟨⟨_, success⟩, valid.markSaved job.target⟩
      · rintro fault after ⟨fails, journal, rfl⟩
        refine ⟨?_, rfl, rfl⟩
        rintro ⟨result, success⟩
        exact fails result success
  | undo =>
      rw [work, ensures_modify]
      refine ⟨id, ?_⟩
      cases undone : editor.buffer.undo? with
      | none => exact valid
      | some restored => exact valid.undo? undone
  | enter label => exact ensures_modify.mpr ⟨id, valid.enter label⟩
  | leave succeeded =>
      rw [work, ensures_modify]
      refine ⟨id, ?_⟩
      rw [Editor.leaveTransaction_buffer]
      split
      · exact valid.commit
      · exact valid.rollback

/-- What a use comes to that changes the buffer, or fails and leaves it as it is. -/
theorem perform_buffer {use : Primitive}
    (change : Buffer → Except Fault Buffer)
    (worked : use.work.Ensures editor (fun _ after => change editor.buffer = .ok after.buffer)
      (fun fault after => change editor.buffer = .error fault ∧ after = editor)) :
    (perform editor use).buffer = (change editor.buffer).toOption.getD editor.buffer := by
  refine EditorM.Ensures.run
    (fun _ after => after.buffer = (change editor.buffer).toOption.getD editor.buffer) ?_
  refine worked.mono (fun _ after success => ?_) fun fault after failed => ?_
  · rw [success]
    rfl
  · rw [failed.1, failed.2]
    rfl

theorem perform_insertLines (after : Int) (lines : List String) :
    (perform editor (.insertLines after lines)).buffer =
      (editor.buffer.insertLines after lines).toOption.getD editor.buffer :=
  perform_buffer (fun buffer => buffer.insertLines after lines)
    EditorM.ensures_editBuffer

/-- One use after the other, those that fail included, keeps the buffer valid. -/
theorem valid_foldl (uses : List Primitive) :
    ∀ {editor : Editor}, editor.buffer.Valid limit →
      (uses.foldl perform editor).buffer.Valid limit := by
  induction uses with
  | nil => exact fun valid => valid
  | cons use rest ih =>
      intro editor valid
      refine ih (Ensures.run (fun _ after => after.buffer.Valid limit) ?_)
      refine (ensures_work valid use).mono (fun _ _ ensured => ensured.2) fun _ after ensured => ?_
      rw [ensured.2.1]
      exact valid

/-! ## A buffer from its beginning on -/

/-- The current line can be addressed, the history is within a limit, where one below zero counts as
zero, and the next use fails exactly when it says so and then leaves the buffer and the disk as they
are. -/
structure Sound (editor : Editor) (limit : Int) : Prop where
  placed : 1 ≤ editor.buffer.current ∧ editor.buffer.current ≤ max editor.buffer.lineCount 1
  bounded : (editor.buffer.history.size : Int) ≤ max limit 0
  fails (next : Primitive) : next.work.Ensures editor
    (fun _ _ => ¬next.Fails editor)
    (fun _ after =>
      next.Fails editor ∧ after.buffer = editor.buffer ∧ after.disk = editor.disk)

theorem sound_of_valid (valid : editor.buffer.Valid limit) : Sound editor limit where
  placed := valid.placed
  bounded := valid.limit ▸ valid.bounded
  fails next :=
    (ensures_work valid next).mono (fun _ _ ensured => ensured.1) fun _ _ ensured => ensured

/-- A limit that is no smaller is kept all the more. -/
theorem Sound.mono {larger : Int} (sound : Sound editor limit) (le : limit ≤ larger) :
    Sound editor larger where
  placed := sound.placed
  bounded := by
    have bounded := sound.bounded
    omega
  fails := sound.fails

/-- Lines that are put at the top one by one fill the history up to its limit. -/
theorem size_foldl_insert (line : String) (count : Nat) :
    ∀ {editor : Editor}, editor.buffer.Closed →
      (editor.buffer.history.size + count : Int) ≤ editor.buffer.history.limit →
      ((List.replicate count (.insertLines 0 [line])).foldl perform editor).buffer.history.size =
        editor.buffer.history.size + count := by
  induction count with
  | zero => exact fun _ _ => rfl
  | succ count ih =>
      intro editor closed room
      obtain ⟨after, inserted, closed', history⟩ := Buffer.insertLines_top closed line
      have performed : (perform editor (.insertLines 0 [line])).buffer = after := by
        rw [perform_insertLines, inserted]
        rfl
      have size := History.size_push (editor.buffer.entry "insert_lines")
        (show (editor.buffer.history.size : Int) < editor.buffer.history.limit by omega)
      rw [← history, ← performed] at size
      rw [List.replicate_succ, List.foldl_cons, ih (performed ▸ closed'), size]
      · omega
      · rw [size, performed, history, History.push_limit]
        omega

/-- A limit for which a buffer without open transaction is sound, whatever the uses, is not below
the limit of its history. -/
theorem limit_le_of_sound (closed : editor.buffer.Closed) (bounded : editor.buffer.history.Bounded)
    (sound : ∀ uses : List Primitive, Sound (uses.foldl perform editor) limit) :
    editor.buffer.history.limit ≤ max limit 0 := by
  rw [History.Bounded] at bounded
  let count := editor.buffer.history.limit.toNat - editor.buffer.history.size
  by_cases room : editor.buffer.history.limit ≤ 0
  · omega
  · have full := size_foldl_insert "" count closed (by omega)
    have within := (sound (List.replicate count (.insertLines 0 [""]))).bounded
    rw [full] at within
    omega

/-- **However a buffer is used, it stays sound, but not for every limit that it was to have.**

A buffer is made with an empty history of some limit.  It is sound for the usual limit, after any
uses of it, and for the limit of the given history exactly if that is no smaller.  If an empty
history of that limit is put into it afterwards, it is sound for this limit. -/
theorem perform_sound (start : Editor) (parts : BufferParts) (limit : Int) :
    let made : Buffer := .make { parts with history? := some { limit } }
    let reached (buffer : Buffer) (uses : List Primitive) : Editor :=
      uses.foldl perform { start with buffer }
    (∀ uses, Sound (reached made uses) 256) ∧
      ((∀ uses, Sound (reached made uses) limit) ↔ 256 ≤ limit) ∧
      ∀ uses, Sound (reached { made with history := { limit } } uses) limit := by
  intro made reached
  have valid : made.Valid 256 := Buffer.valid_make _ (Int.natCast_nonneg 256)
  have usual (uses : List Primitive) : Sound (reached made uses) 256 :=
    sound_of_valid (valid_foldl uses valid)
  refine ⟨usual, ⟨fun sound => ?_, fun enough uses => (usual uses).mono enough⟩, fun uses => ?_⟩
  · have kept : made.history.limit ≤ max limit 0 :=
      limit_le_of_sound ⟨rfl, rfl⟩ valid.bounded sound
    rw [valid.limit] at kept
    omega
  · exact sound_of_valid (valid_foldl uses (valid.withEmptyHistory limit))

/-- A history that is to have one entry at most gets two. -/
theorem small_limit_ignored :
    let made : Buffer := .make
      { document := .ofLines ["a", "b", "c"], history? := some { limit := 1 } }
    let reached := [.deleteRange 1 1, .deleteRange 1 1].foldl perform
      { Editor.ofText "" with buffer := made }
    reached.buffer.lines = ["c"] ∧ reached.buffer.history.size = 2 ∧ ¬Sound reached 1 := by
  intro made reached
  have two : reached.buffer.history.size = 2 := by decide +kernel
  refine ⟨by decide +kernel, two, fun sound => ?_⟩
  have bounded := sound.bounded
  rw [two] at bounded
  omega

-- A change is taken back inside a transaction that is rolled back: the lines and the current line
-- are the ones from before the transaction, and the entry is gone from the history.
example :
    let reached := [.deleteRange 1 1, .enter "outer", .setCurrent 2, .enter "inner", .undo,
      .leave false, .insertLines 3 ["four"], .leave false].foldl perform (.ofText "one\ntwo\nthree")
    reached.buffer.lines = ["two", "three"] ∧ reached.buffer.current = 1 ∧
      reached.buffer.history.size = 0 := by
  decide +kernel

end Primitive

end LineEditor

import LineEditor.Buffer.File
import LineEditor.Proofs.Disk
import LineEditor.Proofs.Text.Codec

/-!
# Saving and loading buffers

Saving succeeds exactly if there is a path, its encoding is known and has all
characters of the text, and the file can be written (`Buffer.save_eq_ok_iff`).  A buffer that
is loaded has the lines of the text that the file holds
(`Buffer.load_of_contents`), so what a buffer of unbroken lines has been saved
to is loaded with the same lines (`Buffer.load_saved`).
-/

set_option autoImplicit false

namespace LineEditor.Buffer

variable {codecs : String → Option Text.Coding} {buffer saved : Buffer} {disk after : Disk}
  {path? : Option String} {count : Nat}

/-! ## Saving -/

theorem prepareSave_eq_ok_iff {job : SaveJob} :
    buffer.prepareSave codecs path? = .ok job ↔
      buffer.target? path? = some job.target ∧ job.length = buffer.text.length ∧
      ∃ coding, Disk.codingNamed codecs buffer.encoding = .ok coding ∧
        coding.encode? buffer.text = some job.bytes := by
  obtain ⟨target, bytes, length⟩ := job
  rw [prepareSave]
  cases buffer.target? path? with
  | none => simp
  | some own =>
      cases Disk.codingNamed codecs buffer.encoding with
      | error fault => simp [bind, Except.bind]
      | ok coding =>
          cases encoded : coding.encode? buffer.text with
          | none => simp [encoded, bind, Except.bind]
          | some written =>
              simp [encoded, bind, Except.bind, pure, Except.pure, and_comm, eq_comm]

/-- Saving is preparing, writing and taking note. -/
theorem save_eq_ok_iff :
    buffer.save codecs disk path? = .ok (count, saved, after) ↔
      ∃ job, buffer.prepareSave codecs path? = .ok job ∧
        disk.write job.target job.bytes = .ok after ∧
        count = job.length ∧ saved = buffer.markSaved job.target := by
  rw [save]
  cases buffer.prepareSave codecs path? with
  | error fault => simp [bind, Except.bind]
  | ok job =>
      cases written : disk.write job.target job.bytes with
      | error fault => simp [bind, Except.bind, written]
      | ok changed =>
          simp only [bind, Except.bind, written, pure, Except.pure, Except.ok.injEq, Prod.mk.injEq,
            exists_eq_left']
          exact ⟨fun ⟨isCount, isSaved, isAfter⟩ => ⟨isAfter, isCount.symm, isSaved.symm⟩,
            fun ⟨isAfter, isCount, isSaved⟩ => ⟨isCount.symm, isSaved.symm, isAfter⟩⟩

/-- What is saved to a given path is saved there. -/
theorem target?_given {path : String} (present : path ≠ "") :
    buffer.target? (some path) = some path := by
  simp [target?, Option.filter, present]

/-- Without a path, what is saved is saved to the buffer's own. -/
theorem target?_own {path : String} (own : buffer.path? = some path) (present : path ≠ "") :
    buffer.target? none = some path := by
  simp [target?, own, present]

/-! ## Loading -/

section Loading

variable {path encoding text : String} {bytes : ByteArray} {coding : Text.Coding}
  (readable : disk.contents path = .ok bytes)
  (named : Disk.codingNamed codecs encoding = .ok coding)
include readable named

/-- Loading a file that holds a text without carriage returns. -/
theorem load_of_contents (decoded : coding.decode? bytes = some text)
    (uncarried : '\r' ∉ text.toList) :
    ∃ loaded, load codecs disk path encoding = .ok loaded ∧ loaded.lines = Text.splitLines text ∧
      loaded.current = max 1 loaded.lineCount ∧ loaded.path? = some (FilePath.normal path) ∧
      loaded.encoding = encoding := by
  have isText := Disk.readText_of_contents readable named decoded uncarried
  simp only [load, Disk.has_of_contents readable, isText, bind, Except.bind, if_true]
  exact ⟨_, rfl, rfl, Nat.max_comm _ _, rfl, rfl⟩

variable (faithful : coding.decode? bytes = some buffer.text)
  (unbroken : ∀ line ∈ buffer.lines, Text.Unbroken line)
include faithful unbroken

/-- The text of unbroken lines is read as it was written. -/
theorem readText_saved : disk.readText codecs path encoding = .ok buffer.text :=
  Disk.readText_of_contents readable named faithful
    (Text.carriage_not_mem_joinLines unbroken)

/-- **Unbroken lines are loaded as they were saved.** -/
theorem load_saved :
    ∃ loaded, load codecs disk path encoding = .ok loaded ∧ loaded.lines = buffer.lines ∧
      loaded.current = max 1 buffer.lineCount := by
  obtain ⟨loaded, success, lines, current, -, -⟩ :=
    load_of_contents readable named faithful
      (Text.carriage_not_mem_joinLines unbroken)
  have same : loaded.lines = buffer.lines :=
    lines.trans ((Text.splitLines_joinLines_iff buffer.lines).mpr unbroken)
  refine ⟨loaded, success, same, ?_⟩
  rw [current]
  exact congrArg (max 1 ·.length) same

end Loading

end LineEditor.Buffer

import LineEditor.Address.Resolution
import LineEditor.Buffer.File
import LineEditor.Shell.Execution
import LineEditor.Substitution

/-!
# Plain faults

A buffer faults when it is handed a line number that is out of range.  Such a
fault is a mistake of the caller's (`Fault.IsMisuse`).  What the editor takes in
from outside can make it fail in many other ways: a fault is plain when it is no
misuse of a buffer and not the warning about unsaved changes, which only the
command to quit gives (`Fault.IsPlain`).

All that goes wrong with addresses, substitutions, files and the shell is plain:
resolving an address (`Address.plain_resolve`), reading what to substitute
(`Substitution.plain_read`), executing a shell command (`Shell.plain_execute`),
reading a file (`Disk.plain_readText`) and writing one (`Disk.plain_write`).
-/

set_option autoImplicit false

namespace LineEditor

namespace Fault

/-- A buffer was handed a line number that is out of range, or had no path to be saved to. -/
def IsMisuse (fault : Fault) : Prop :=
  ∃ cause, fault = .buffer cause

/-- A fault that is neither the misuse of a buffer nor the warning about unsaved changes. -/
def IsPlain (fault : Fault) : Prop :=
  ¬fault.IsMisuse ∧ fault ≠ .refusal .unsavedChanges

theorem isPlain_refusal {refusal : Refusal} (other : refusal ≠ .unsavedChanges) :
    (Fault.refusal refusal).IsPlain := by
  constructor
  · rintro ⟨_, same⟩
    cases same
  · intro same
    injection same with same
    exact other same

theorem isPlain_ofPattern (fault : Pattern.PatternFault) : (Fault.ofPattern fault).IsPlain := by
  constructor
  · rintro ⟨_, same⟩
    cases fault <;> cases same
  · cases fault <;> simp [ofPattern]

theorem isPlain_ofNumeral (text : String) (fault : Text.NumeralFault) :
    (Fault.ofNumeral text fault).IsPlain := by
  constructor
  · rintro ⟨_, same⟩
    cases fault <;> cases same
  · cases fault <;> simp [ofNumeral]

end Fault

/-- An outcome that fails, if it does, with a plain fault. -/
def PlainOutcome {α : Type} (outcome : Except Fault α) : Prop :=
  ∀ fault, outcome = .error fault → fault.IsPlain

namespace PlainOutcome

variable {α β : Type}

theorem ok (result : α) : PlainOutcome (.ok result) := by
  intro fault failed
  cases failed

theorem error {fault : Fault} (plain : fault.IsPlain) :
    PlainOutcome (.error fault : Except Fault α) := by
  intro other failed
  cases failed
  exact plain

theorem refused {refusal : Refusal} (other : refusal ≠ .unsavedChanges) :
    PlainOutcome (.error (.refusal refusal) : Except Fault α) :=
  error (Fault.isPlain_refusal other)

theorem bind {first : Except Fault α} {next : α → Except Fault β} (plain : PlainOutcome first)
    (others : ∀ result, PlainOutcome (next result)) : PlainOutcome (first >>= next) := by
  cases first with
  | ok result => exact others result
  | error fault => exact error (plain fault rfl)

theorem map {outcome : Except Fault α} (plain : PlainOutcome outcome) (change : α → β) :
    PlainOutcome (outcome.map change) := by
  cases outcome with
  | ok result => exact ok (change result)
  | error fault => exact error (plain fault rfl)

end PlainOutcome

/-! ## Resolving addresses -/

section

variable (engine : Pattern.Engine)

namespace Address

theorem plain_numberedLine (digits : List Char) : PlainOutcome (numberedLine digits) := by
  rw [numberedLine]
  split
  · exact .ok _
  · exact .error (Fault.isPlain_ofNumeral _ _)

theorem plain_markedLine (marks : Marks) (name : List Char) :
    PlainOutcome (markedLine marks name) := by
  unfold markedLine
  split
  · split
    · exact .ok _
    · exact .refused (by decide)
  · exact .refused (by decide)

theorem plain_effectivePattern (lastSearch? : Option String) (body : List Char) :
    PlainOutcome (effectivePattern lastSearch? body) := by
  unfold effectivePattern
  split
  · split
    · exact .ok _
    · exact .refused (by decide)
  · exact .ok _

theorem plain_readPattern (text : String) : PlainOutcome (readPattern engine text) := by
  rw [readPattern]
  split
  · exact .ok _
  · exact .refused (by decide)
  · exact .error (Fault.isPlain_ofPattern _)

theorem plain_firstUp (document : Document) (accept : String → Bool) (count : Nat) :
    ∀ number, PlainOutcome (Buffer.firstUp document accept count number) := by
  induction count with
  | zero => exact fun _ => .ok none
  | succ count ih =>
      intro number
      rw [Buffer.firstUp]
      split
      · exact .error (by simp [Fault.IsPlain, Fault.IsMisuse])
      · split
        · exact .ok _
        · exact ih (number + 1)

theorem plain_searchLine (buffer : Buffer) (lastSearch? : Option String) (isForward : Bool)
    (body : List Char) : PlainOutcome (searchLine engine buffer lastSearch? isForward body) := by
  refine .bind (plain_effectivePattern lastSearch? body) fun text => ?_
  refine .bind (plain_readPattern engine text) fun compiled => ?_
  cases isForward with
  | true =>
      refine .bind (plain_firstUp _ _ _ _) ?_
      rintro (_ | line)
      · exact .refused (by decide)
      · exact .ok _
  | false =>
      refine .bind (.ok _) ?_
      rintro (_ | line)
      · exact .refused (by decide)
      · exact .ok _

theorem plain_resolveBase (buffer : Buffer) (marks : Marks) (lastSearch? : Option String)
    (base : Base) : PlainOutcome (resolveBase engine buffer marks lastSearch? base) := by
  cases base with
  | current => exact .ok _
  | last => exact .ok _
  | number digits => exact (plain_numberedLine digits).map _
  | mark name => exact (plain_markedLine marks name).map _
  | search isForward body => exact (plain_searchLine engine buffer lastSearch? isForward body).map _

theorem plain_sumOffsets (offsets : List Offset) : PlainOutcome (sumOffsets offsets) := by
  induction offsets with
  | nil => exact .ok 0
  | cons offset rest ih =>
      refine .bind ?_ fun _ => .bind ih fun _ => .ok _
      rw [Offset.value]
      split
      · exact .ok _
      · exact .bind (plain_numberedLine offset.digits) fun _ => .ok _

/-- **Resolving an address never misuses the buffer.** -/
theorem plain_resolve (buffer : Buffer) (marks : Marks) (lastSearch? : Option String)
    (token : String) : PlainOutcome (resolve engine buffer marks lastSearch? token).1 := by
  simp only [resolve]
  split
  · rename_i failed
    exact .error (plain_resolveBase engine buffer marks lastSearch? _ _ failed)
  · refine .map ?_ _
    rw [offsetOf]
    split
    · exact plain_sumOffsets _
    · exact .refused (by simp)

end Address

/-! ## Substitutions -/

namespace Substitution

theorem plain_readPattern (text : String) : PlainOutcome (readPattern engine text) := by
  rw [readPattern]
  split
  · exact .ok _
  · exact .refused (by decide)
  · exact .error (Fault.isPlain_ofPattern _)

theorem plain_fields (args : String) : PlainOutcome (fields args) := by
  rw [fields]
  split
  · exact .ok _
  · exact .ok _
  · exact .refused (by decide)

theorem plain_effectivePattern (lastSearch? : Option String) (pattern : List Char) :
    PlainOutcome (effectivePattern lastSearch? pattern) := by
  unfold effectivePattern
  split
  · split
    · exact .ok _
    · exact .refused (by decide)
  · exact .ok _

theorem plain_readFields (args : String) (lastSearch? : Option String) :
    PlainOutcome (readFields engine args lastSearch?) := by
  refine .bind (plain_fields args) ?_
  rintro ⟨pattern, replacement, suffix⟩
  dsimp only
  split
  · exact .refused (by decide)
  · exact .bind (plain_effectivePattern lastSearch? pattern) fun text =>
      .bind (plain_readPattern engine text) fun _ => .ok _

theorem plain_read (args : String) (lastSubstitution? : Option Substitution)
    (lastSearch? : Option String) :
    PlainOutcome (read engine args lastSubstitution? lastSearch?) := by
  unfold read
  split
  · split
    · exact .ok _
    · exact .refused (by decide)
  · exact plain_readFields engine args lastSearch?

theorem plain_changes (replace : String → Except Pattern.PatternFault (String × Nat))
    (lines : List String) : ∀ number, PlainOutcome (changes replace number lines) := by
  induction lines with
  | nil => exact fun _ => .ok []
  | cons line rest ih =>
      intro number
      rw [changes]
      split
      · exact .refused (by decide)
      · exact .bind (ih (number + 1)) fun _ => .ok _

end Substitution

end

/-! ## Files and the shell -/

theorem Shell.plain_lines (outcome : Shell.Outcome) : PlainOutcome outcome.lines := by
  unfold Outcome.lines
  split
  · exact .ok _
  · exact .refused (by decide)
  · exact .refused (by decide)
  · exact .error (by simp [Fault.IsPlain, Fault.IsMisuse])
  · exact .error (by simp [Fault.IsPlain, Fault.IsMisuse])
  · exact .error (by simp [Fault.IsPlain, Fault.IsMisuse])

theorem Shell.plain_execute (shell : Shell) (config : Config) (disk : Disk) (command : String) :
    PlainOutcome (shell.execute config disk command).1 := by
  rw [execute]
  dsimp only
  split
  · exact .error (by simp [Fault.IsPlain, Fault.IsMisuse])
  · split
    · exact .error (by simp [Fault.IsPlain, Fault.IsMisuse])
    · exact plain_lines _

namespace Disk

theorem plain_ofTransfer {α : Type} (path : String) (transfer : Transfer α) :
    PlainOutcome (ofTransfer path transfer) := by
  cases transfer with
  | done value => exact .ok value
  | refused cause => exact .error (by simp [Fault.IsPlain, Fault.IsMisuse])
  | endless => exact .error (by simp [Fault.IsPlain, Fault.IsMisuse])

/-- Opening a file fails only plainly, and so does reading what has been opened. -/
theorem plain_openFile (disk : Disk) (path : String) :
    PlainOutcome (disk.openFile path) ∧
      ∀ source, disk.openFile path = .ok source → PlainOutcome source := by
  rw [openFile]
  split
  · exact ⟨.error (by simp [Fault.IsPlain, Fault.IsMisuse]), nofun⟩
  · split
    · split
      · exact ⟨.error (by simp [Fault.IsPlain, Fault.IsMisuse]), nofun⟩
      · refine ⟨.ok _, fun source opened => ?_⟩
        cases opened
        exact .ok _
    · rename_i device _
      refine ⟨(plain_ofTransfer _ _).map _, fun source opened => ?_⟩
      cases outcome : ofTransfer (FilePath.normal path) device.opening with
      | error fault =>
          rw [outcome] at opened
          cases opened
      | ok value =>
          rw [outcome] at opened
          cases opened
          exact plain_ofTransfer _ _
    · exact ⟨.error (by simp [Fault.IsPlain, Fault.IsMisuse]), nofun⟩
    · exact ⟨.error (by simp [Fault.IsPlain, Fault.IsMisuse]), nofun⟩
    · exact ⟨.error (by simp [Fault.IsPlain, Fault.IsMisuse]), nofun⟩

theorem plain_codingNamed (codecs : String → Option Text.Coding) (name : String) :
    PlainOutcome (codingNamed codecs name) := by
  rw [codingNamed]
  split
  · exact .error (by simp [Fault.IsPlain, Fault.IsMisuse])
  · split
    · exact .ok _
    · exact .error (by simp [Fault.IsPlain, Fault.IsMisuse])

theorem plain_readText (codecs : String → Option Text.Coding) (disk : Disk)
    (path encoding : String) : PlainOutcome (disk.readText codecs path encoding) := by
  unfold readText
  split
  · exact .error (by simp [Fault.IsPlain, Fault.IsMisuse])
  cases opened : disk.openFile (FilePath.normal path) with
  | error fault => exact .error ((disk.plain_openFile _).1 fault opened)
  | ok source =>
      show PlainOutcome (codingNamed codecs encoding >>= _)
      refine .bind (plain_codingNamed codecs encoding) fun coding => ?_
      refine .bind ((disk.plain_openFile _).2 source opened) fun bytes => ?_
      split
      · exact .error (by simp [Fault.IsPlain, Fault.IsMisuse])
      · exact .ok _

theorem plain_write (disk : Disk) (path : String) (bytes : ByteArray) :
    PlainOutcome (disk.write path bytes) := by
  rw [write]
  split
  · exact .error (by simp [Fault.IsPlain, Fault.IsMisuse])
  · split
    · split
      · exact .error (by simp [Fault.IsPlain, Fault.IsMisuse])
      · exact .ok _
    · exact .ok _
    · exact (plain_ofTransfer _ _).map _
    · exact .error (by simp [Fault.IsPlain, Fault.IsMisuse])
    · exact .error (by simp [Fault.IsPlain, Fault.IsMisuse])
    · exact .error (by simp [Fault.IsPlain, Fault.IsMisuse])

end Disk

/-- Before it writes, saving fails only for want of a path, or plainly. -/
theorem Buffer.prepareSave_fault {codecs : String → Option Text.Coding} {buffer : Buffer}
    {path? : Option String} {fault : Fault}
    (failed : buffer.prepareSave codecs path? = .error fault) :
    fault = .buffer .noPath ∨ fault.IsPlain := by
  rw [prepareSave] at failed
  split at failed
  · cases failed
    exact .inl rfl
  · cases named : Disk.codingNamed codecs buffer.encoding with
    | error other =>
        rw [named] at failed
        cases failed
        exact .inr (Disk.plain_codingNamed codecs buffer.encoding fault named)
    | ok coding =>
        simp only [named, bind, Except.bind] at failed
        split at failed
        · cases failed
          exact .inr (by simp [Fault.IsPlain, Fault.IsMisuse])
        · cases failed

end LineEditor

import LineEditor.Disk
import LineEditor.Proofs.FilePath
import LineEditor.Proofs.Text.Codec
import LineEditor.Proofs.Text.Lines

/-!
# Writing and reading files

What has been written at a path is what is read there, if the path names a file
that can be read, be it there before or not (`Disk.contents_write`).  A device
is no file, so nothing of the kind holds of it.  Where something can be read
from a file that can be written, it can be replaced (`Disk.write_over`).

Both rest on what a walk through the directories does: once a file has been put
at the place to which a walk leads, the walk leads to that file
(`Disk.walk_put`).
-/

set_option autoImplicit false

namespace LineEditor

/-- The place of a file that is there or can be created. -/
def Location.place? : Location → Option (List String)
  | .file place _ | .vacant place _ => some place
  | .directory | .device _ | .nowhere _ => none

namespace Disk

/-- The path names a file that can be read, be it there already or not. -/
def NamesFile (disk : Disk) (path : String) : Prop :=
  ∃ place, (disk.locate (FilePath.normal path)).place? = some place ∧
    disk.bar? .read place = none

/-- What can be read at the path can be replaced there: it stands in a file that can be written, or
it is the nothing of the null device. -/
def Rewritable (disk : Disk) (path : String) : Prop :=
  (∃ place, (disk.locate (FilePath.normal path)).place? = some place ∧
    disk.bar? .write place = none) ∨
  disk.locate (FilePath.normal path) = .device .null

variable {disk after : Disk} {path : String} {bytes other : ByteArray}

@[simp] theorem file?_put (place : List String) : (disk.put place bytes).file? place = some bytes := by
  rw [file?, put, List.lookup_cons_self]

@[simp] theorem isDirectory_put (place directory : List String) :
    (disk.put place bytes).isDirectory directory = disk.isDirectory directory := rfl

@[simp] theorem device?_put (place : List String) :
    (disk.put place bytes).device? = disk.device? := rfl

/-! ## Walking -/

/-- A walk whose last step is no way up, no way into a directory and none to a device leads to a
file that has been put there. -/
theorem walk_last {start rest : List String} {part : String} (down : ¬(part == "..") = true)
    (short : ¬part.utf8ByteSize > 255) (isFile : ¬disk.isDirectory (start ++ [part]) = true)
    (plain : disk.device? (start ++ [part]) = none) (last : rest.isEmpty = true) :
    (disk.put (start ++ [part]) bytes).walk start (part :: rest) =
      .file (start ++ [part]) bytes := by
  rw [walk, if_neg down]
  dsimp only
  rw [if_neg short, isDirectory_put, if_neg isFile, file?_put, device?_put, plain]
  exact if_pos last

/-- Where a walk led to the place of a file, it leads to the file that has been put there. -/
theorem walk_put {place : List String} (start parts : List String)
    (led : (disk.walk start parts).place? = some place) :
    (disk.put place bytes).walk start parts = .file place bytes := by
  fun_induction disk.walk start parts with
  | case1 => cases led
  | case2 start part rest up ih =>
      rw [walk, if_pos up]
      exact ih led
  | case3 => cases led
  | case4 start part rest down next short isDirectory ih =>
      rw [walk, if_neg down]
      dsimp only
      rw [if_neg short, isDirectory_put, if_pos isDirectory]
      exact ih led
  | case5 => cases led
  | case6 => cases led
  | case7 start part rest down next short isFile found file plain last =>
      obtain rfl : next = place := Option.some.inj led
      exact walk_last down short isFile plain last
  | case8 => cases led
  | case9 start part rest down next short isFile vacant plain last =>
      obtain rfl : next = place := Option.some.inj led
      exact walk_last down short isFile plain last
  | case10 => cases led

/-! ## Paths -/

/-- Where a path led to the place of a file, it leads to the file that has been put there. -/
theorem locate_put {place : List String} (led : (disk.locate path).place? = some place) :
    (disk.put place bytes).locate path = .file place bytes := by
  rw [locate] at led ⊢
  split at led
  · cases led
  · rename_i short
    rw [if_neg short]
    exact walk_put _ _ led

/-! ## Reading and writing -/

/-- A file can be written exactly where there is a place for it that is not barred, and a device
exactly if it takes what is written. -/
theorem write_eq_ok_iff :
    disk.write path bytes = .ok after ↔ hasNul (FilePath.normal path) = false ∧
      ((∃ place before, disk.locate (FilePath.normal path) = .file place before ∧
          disk.bar? .write place = none ∧ after = disk.put place bytes) ∨
        (∃ place, disk.locate (FilePath.normal path) = .vacant place none ∧
          after = disk.put place bytes) ∨
        ∃ device, disk.locate (FilePath.normal path) = .device device ∧
          device.writing bytes = .done () ∧ after = disk) := by
  rw [write]
  cases forbidden : hasNul (FilePath.normal path) with
  | true => simp
  | false =>
      cases located : disk.locate (FilePath.normal path) with
      | file place before =>
          cases barred : disk.bar? .write place <;> simp [barred, eq_comm]
      | directory => simp
      | device device =>
          cases taken : device.writing bytes <;> simp [taken, ofTransfer, Except.map, eq_comm]
      | vacant place bar? => cases bar? <;> simp [eq_comm]
      | nowhere cause => simp

/-- What can be read stands in a file that is not barred, or a device gives it. -/
theorem contents_eq_ok_iff :
    disk.contents path = .ok bytes ↔ hasNul (FilePath.normal path) = false ∧
      ((∃ place, disk.locate (FilePath.normal path) = .file place bytes ∧
          disk.bar? .read place = none) ∨
        ∃ device, disk.locate (FilePath.normal path) = .device device ∧
          device.opening = .done () ∧ device.reading = .done bytes) := by
  rw [contents, read, openFile]
  cases forbidden : hasNul (FilePath.normal path) with
  | true => simp [bind, Except.bind]
  | false =>
      cases located : disk.locate (FilePath.normal path) with
      | file place before =>
          cases barred : disk.bar? .read place with
          | some cause => simp [barred, bind, Except.bind, eq_comm]
          | none =>
              simp only [bind, Except.bind, barred, Bool.false_eq_true, if_false, Except.ok.injEq,
                Location.file.injEq, reduceCtorEq, false_and, exists_false, or_false, true_and]
              exact ⟨fun same => ⟨place, ⟨rfl, same⟩, barred⟩, fun ⟨_, ⟨_, same⟩, _⟩ => same⟩
      | device device =>
          cases opened : device.opening with
          | done value =>
              cases given : device.reading <;>
                simp [opened, given, ofTransfer, bind, Except.bind, Except.map]
          | refused cause => simp [opened, ofTransfer, bind, Except.bind, Except.map]
          | endless => simp [opened, ofTransfer, bind, Except.bind, Except.map]
      | directory => simp [bind, Except.bind]
      | vacant place bar? => simp [bind, Except.bind]
      | nowhere cause => simp [bind, Except.bind]

/-- What can be read is there. -/
theorem has_of_contents (readable : disk.contents path = .ok bytes) :
    disk.has path = .ok true := by
  obtain ⟨allowed, ⟨place, file, -⟩ | ⟨device, isDevice, -⟩⟩ := contents_eq_ok_iff.mp readable
  · simp [has, allowed, file]
  · simp [has, allowed, isDevice]

/-- What has been put at the place to which a path leads is read at the path. -/
theorem contents_put {place : List String} (allowed : hasNul (FilePath.normal path) = false)
    (led : (disk.locate (FilePath.normal path)).place? = some place)
    (free : disk.bar? .read place = none) : (disk.put place bytes).contents path = .ok bytes :=
  contents_eq_ok_iff.mpr ⟨allowed, .inl ⟨place, locate_put led, free⟩⟩

/-- **What has been written to a file is read there.** -/
theorem contents_write (written : disk.write path bytes = .ok after)
    (isFile : disk.NamesFile path) : after.contents path = .ok bytes := by
  obtain ⟨place, led, free⟩ := isFile
  obtain ⟨allowed, ⟨_, _, located, -, rfl⟩ | ⟨_, located, rfl⟩ | ⟨_, located, -⟩⟩ :=
    write_eq_ok_iff.mp written
  · obtain rfl := Option.some.inj ((congrArg Location.place? located).symm.trans led)
    exact contents_put allowed led free
  · obtain rfl := Option.some.inj ((congrArg Location.place? located).symm.trans led)
    exact contents_put allowed led free
  · rw [located] at led
    cases led

/-- **What can be read can be replaced**, where it can be written.  Afterwards the replacement is
read, but for the null device, from which nothing is read before and after. -/
theorem write_over (readable : disk.contents path = .ok bytes) (rewritable : disk.Rewritable path)
    (other : ByteArray) :
    ∃ after, disk.write path other = .ok after ∧
      (after.contents path = .ok other ∨ bytes = .empty ∧ after.contents path = .ok .empty) := by
  obtain ⟨allowed, found⟩ := contents_eq_ok_iff.mp readable
  rcases rewritable with ⟨place, led, free⟩ | isNull
  · rcases found with ⟨_, file, readFree⟩ | ⟨_, isDevice, -⟩
    · obtain rfl := Option.some.inj ((congrArg Location.place? file).symm.trans led)
      exact ⟨_, write_eq_ok_iff.mpr ⟨allowed, .inl ⟨_, bytes, file, free, rfl⟩⟩,
        .inl (contents_put allowed led readFree)⟩
    · rw [isDevice] at led
      cases led
  · refine ⟨disk, write_eq_ok_iff.mpr ⟨allowed, .inr (.inr ⟨_, isNull, rfl, rfl⟩)⟩, .inr ?_⟩
    rcases found with ⟨_, file, -⟩ | ⟨device, isDevice, -, given⟩
    · rw [isNull] at file
      cases file
    · obtain rfl : Device.null = device := Location.device.inj (isNull.symm.trans isDevice)
      obtain rfl : ByteArray.empty = bytes := Transfer.done.inj given
      exact ⟨rfl, readable⟩

/-! ## Texts of files -/

variable {codecs : String → Option Text.Coding} {encoding text : String}

/-- A coding is found under a name that is one. -/
theorem codingNamed_eq_ok_iff {coding : Text.Coding} :
    codingNamed codecs encoding = .ok coding ↔
      hasNul encoding = false ∧ Text.Coding.ofName? codecs encoding = some coding := by
  rw [codingNamed]
  cases hasNul encoding with
  | true => simp
  | false => cases Text.Coding.ofName? codecs encoding <;> simp

/-- Under the name of an own code that code is found. -/
theorem codingNamed_own {codec : Text.Codec} (named : Text.Codec.ofName? encoding = some codec) :
    codingNamed codecs encoding = .ok codec.coding :=
  codingNamed_eq_ok_iff.mpr ⟨Text.Codec.contains_null_of_ofName? named, by
    rw [Text.Coding.ofName?, named]⟩

/-- What can be read has been opened. -/
theorem openFile_of_contents (readable : disk.contents path = .ok bytes) :
    disk.openFile (FilePath.normal path) = .ok (.ok bytes) := by
  rw [contents, read] at readable
  cases opened : disk.openFile (FilePath.normal path) with
  | error fault => simp [opened, bind, Except.bind] at readable
  | ok source => exact congrArg Except.ok (by simpa [opened, bind, Except.bind] using readable)

/-- A text that is decoded and holds no carriage return is read as it is. -/
theorem readText_of_contents {coding : Text.Coding} (readable : disk.contents path = .ok bytes)
    (named : codingNamed codecs encoding = .ok coding)
    (decoded : coding.decode? bytes = some text) (uncarried : '\r' ∉ text.toList) :
    disk.readText codecs path encoding = .ok text := by
  have allowed := (codingNamed_eq_ok_iff.mp named).1
  simp only [readText, allowed, openFile_of_contents readable, named, decoded, bind, Except.bind,
    Text.normaliseFeeds_eq_self uncarried, String.ofList_toList]
  rfl

/-! ## Normal spellings -/

theorem write_normal (disk : Disk) (path : String) (bytes : ByteArray) :
    disk.write (FilePath.normal path) bytes = disk.write path bytes := by
  rw [write, write, FilePath.normal_normal]

end Disk

end LineEditor

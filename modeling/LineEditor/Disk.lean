import LineEditor.Fault
import LineEditor.FilePath
import LineEditor.Text.Codec
import LineEditor.Text.Lines

/-!
# The files an editor can reach

A disk holds the files and directories below the working directory, and what is
known of others.  Paths are looked up component by component (`Disk.locate`),
and the answer says what stands at the path: a file, a directory, a device, a
free place in a directory, or the reason why there can be nothing.

A device is anything that can be opened like a file and is none: a terminal, a
pipe, the null device.  What it gives and what becomes of what it takes are its
own, and it may keep whoever opens, reads or writes it waiting for ever.  The
file system may also bar the way to a place, as it does where rights are
missing.
-/

set_option autoImplicit false

namespace LineEditor

/-- How a call to a device ends, if it does. -/
inductive Transfer (α : Type) where
  | done (value : α)
  | refused (cause : PathCause)
  | endless

/-- What can be opened like a file and is none.  Opening it to read it, reading it to its end, and
opening it and writing to it are three calls. -/
structure Device where
  opening : Transfer Unit
  reading : Transfer ByteArray
  writing : ByteArray → Transfer Unit

/-- The device that holds nothing and keeps nothing. -/
def Device.null : Device where
  opening := .done ()
  reading := .done .empty
  writing _ := .done ()

/-- What is done to a place.  Files are created in a directory. -/
inductive Access where
  | create
  | read
  | write
  deriving DecidableEq

/-- The directories that every disk has, by their names from the root of the file system. -/
def Disk.usualDirectories : List (List String) :=
  [[], ["dev"], ["tmp"], ["etc"], ["usr"], ["bin"]].map ("/" :: ·)

/-- The devices that every disk has. -/
def Disk.usualDevice? (place : List String) : Option Device :=
  if place = ["/", "dev", "null"] then some .null else none

/-- Where the rights are missing by which files are created: in all directories that are named from
the root but the temporary one. -/
def Disk.usualBar? : Access → List String → Option PathCause
  | .create, place => if place.head? = some "/" ∧ place ≠ ["/", "tmp"] then some .denied else none
  | _, _ => none

/-- Files, directories and devices, named by their components below the working directory.  The
names of those further up start with two points for each step, and those of the others with a
slash.  Whatever bars an access to a place has a cause. -/
structure Disk where
  files : List (List String × ByteArray) := []
  directories : List (List String) := Disk.usualDirectories
  device? : List String → Option Device := Disk.usualDevice?
  bar? : Access → List String → Option PathCause := Disk.usualBar?

/-- What stands at a path.  A free place may be barred. -/
inductive Location where
  | file (place : List String) (bytes : ByteArray)
  | directory
  | device (device : Device)
  | vacant (place : List String) (bar? : Option PathCause)
  | nowhere (cause : PathCause)

namespace Disk

/-- The contents of a file at a place. -/
def file? (disk : Disk) (place : List String) : Option ByteArray :=
  disk.files.lookup place

/-- Whether a place is a directory. -/
def isDirectory (disk : Disk) (place : List String) : Bool :=
  place.all (· == "..") || disk.directories.contains place

/-- The directory that contains a directory. -/
def parent (place : List String) : List String :=
  if place == ["/"] then place
  else if place.all (· == "..") then ".." :: place
  else place.dropLast

/-- Walks down from a directory. -/
def walk (disk : Disk) : List String → List String → Location
  | _, [] => .directory
  | place, part :: rest =>
    if part == ".." then disk.walk (parent place) rest
    else
      let next := place ++ [part]
      if part.utf8ByteSize > 255 then .nowhere .nameTooLong
      else if disk.isDirectory next then disk.walk next rest
      else match disk.device? next, disk.file? next with
        | some device, _ => if rest.isEmpty then .device device else .nowhere .notDirectory
        | none, some bytes => if rest.isEmpty then .file next bytes else .nowhere .notDirectory
        | none, none =>
          if rest.isEmpty then .vacant next (disk.bar? .create place) else .nowhere .missing

/-- What stands at a path. -/
def locate (disk : Disk) (path : String) : Location :=
  if path.utf8ByteSize > 4095 then .nowhere .nameTooLong
  else disk.walk (if FilePath.isAbsolute path then ["/"] else []) (FilePath.components path)

/-- Whether a path holds the character that no path may hold. -/
def hasNul (path : String) : Bool :=
  path.toList.contains '\x00'

/-- The outcome of a call to a device. -/
def ofTransfer {α : Type} (path : String) : Transfer α → Except Fault α
  | .done value => .ok value
  | .refused cause => .error (.path cause path)
  | .endless => .error .neverReturns

/-- Opens the file at a path.  What is read from it then is the outcome that is given. -/
def openFile (disk : Disk) (path : String) : Except Fault (Except Fault ByteArray) :=
  let spelling := FilePath.normal path
  if hasNul path then .error .embeddedNul
  else match disk.locate path with
    | .file place bytes =>
      match disk.bar? .read place with
      | some cause => .error (.path cause spelling)
      | none => .ok (.ok bytes)
    | .device device =>
      (ofTransfer spelling device.opening).map fun () => ofTransfer spelling device.reading
    | .directory => .error (.path .isDirectory spelling)
    | .vacant _ _ => .error (.path .missing spelling)
    | .nowhere cause => .error (.path cause spelling)

/-- The bytes of the file at a path. -/
def read (disk : Disk) (path : String) : Except Fault ByteArray := do
  (← disk.openFile path)

/-- The disk with the file at a place replaced or added. -/
def put (disk : Disk) (place : List String) (bytes : ByteArray) : Disk :=
  { disk with files := (place, bytes) :: disk.files.filter (·.1 != place) }

/-- Replaces or creates the file at a path.  As for everything that a buffer does with a path, the
file is looked up by the normal spelling of the path. -/
def write (disk : Disk) (path : String) (bytes : ByteArray) : Except Fault Disk :=
  let spelling := FilePath.normal path
  if hasNul spelling then .error .embeddedNul
  else match disk.locate spelling with
    | .file place _ =>
      match disk.bar? .write place with
      | some cause => .error (.path cause spelling)
      | none => .ok (disk.put place bytes)
    | .vacant place none => .ok (disk.put place bytes)
    | .device device => (ofTransfer spelling (device.writing bytes)).map fun () => disk
    | .directory => .error (.path .isDirectory spelling)
    | .vacant _ (some cause) | .nowhere cause => .error (.path cause spelling)

/-- Whether there is something at the normal spelling of a path.  A path that cannot be there,
because a name on the way is no directory or the path holds a forbidden character, is simply not
there. -/
def has (disk : Disk) (path : String) : Except Fault Bool :=
  let spelling := FilePath.normal path
  if hasNul spelling then .ok false
  else match disk.locate spelling with
    | .file _ _ | .directory | .device _ => .ok true
    | .vacant _ _ | .nowhere .missing | .nowhere .notDirectory => .ok false
    | .nowhere cause => .error (.path cause spelling)

/-- The bytes of the file at the normal spelling of a path. -/
def contents (disk : Disk) (path : String) : Except Fault ByteArray :=
  disk.read (FilePath.normal path)

/-- The coding that a file is read or written in, where some codes are known besides the own ones.
No name holds the forbidden character, and a name that does is not even looked up. -/
def codingNamed (codecs : String → Option Text.Coding) (name : String) :
    Except Fault Text.Coding :=
  if hasNul name then .error .nulInCodecName
  else match Text.Coding.ofName? codecs name with
    | some coding => .ok coding
    | none => .error (.unknownCodec name)

/-- The text of the file at a path, with all ends of line as line feeds.  The file has to be there
before the name of its encoding matters, unless that is no name at all. -/
def readText (codecs : String → Option Text.Coding) (disk : Disk) (path encoding : String) :
    Except Fault String := do
  if hasNul encoding then throw .nulInCodecName
  let source ← disk.openFile (FilePath.normal path)
  let coding ← codingNamed codecs encoding
  match coding.decode? (← source) with
  | none => throw .undecodable
  | some text => return String.ofList (Text.normaliseFeeds text.toList)

/-- The disk with a file and the directories that lead to it. -/
def withFile (disk : Disk) (path : String) (bytes : ByteArray) : Disk :=
  let place := FilePath.components path
  let leading := (List.range place.length).map place.take
  { disk with directories := leading ++ disk.directories }.put place bytes

/-- The disk with a directory and those that lead to it. -/
def withDirectory (disk : Disk) (path : String) : Disk :=
  let place := FilePath.components path
  let leading := (List.range (place.length + 1)).map place.take
  { disk with directories := leading ++ disk.directories }

/-- Whether a place is below the working directory. -/
def isBelow (place : List String) : Bool :=
  place.head? != some "/" && place.head? != some ".."

/-- The files with their paths below the working directory. -/
def listing (disk : Disk) : List (String × ByteArray) :=
  (disk.files.filter (isBelow ·.1)).map fun (place, bytes) => ("/".intercalate place, bytes)

end Disk

end LineEditor

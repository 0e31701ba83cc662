import LineEditor.Buffer.Basic

/-!
# Buffers and files

A buffer is loaded from a file and saved to one in the buffer's encoding.
Loading a path where there is no file gives an empty buffer bound to that path.

Saving has three steps, so that others can watch the middle one: the text is
encoded (`Buffer.prepareSave`), the bytes are written to the disk, and the
buffer is marked as saved.
-/

set_option autoImplicit false

namespace LineEditor

/-- What is to be written where, and the number of characters it has. -/
structure SaveJob where
  target : String
  bytes : ByteArray
  length : Nat

namespace Buffer

/-- Loads the file at a path. -/
def load (codecs : String → Option Text.Coding) (disk : Disk) (path encoding : String) :
    Except Fault Buffer := do
  let isThere ← disk.has path
  let text ← if isThere then disk.readText codecs path encoding else pure ""
  let loaded := make
    { name := FilePath.name path
      document := .ofText text
      path? := some (FilePath.normal path)
      encoding }
  return { loaded with current := loaded.lastLine }

/-- The path to save to: the given one or else the buffer's own.  An empty path counts as none. -/
def target? (buffer : Buffer) (path? : Option String) : Option String :=
  (path?.filter (· != "")).or (buffer.path?.filter (· != ""))

/-- Encodes the text for saving. -/
def prepareSave (codecs : String → Option Text.Coding) (buffer : Buffer) (path? : Option String) :
    Except Fault SaveJob :=
  match buffer.target? path? with
  | none => .error (.buffer .noPath)
  | some target => do
    let coding ← Disk.codingNamed codecs buffer.encoding
    match coding.encode? buffer.text with
    | none => throw .unencodable
    | some bytes => return { target, bytes, length := buffer.text.length }

/-- Takes note that the buffer has been saved. -/
def markSaved (buffer : Buffer) (path : String) : Buffer :=
  { buffer with modified := false, path? := some path }

/-- Saves a buffer and gives the number of characters written. -/
def save (codecs : String → Option Text.Coding) (buffer : Buffer) (disk : Disk)
    (path? : Option String) : Except Fault (Nat × Buffer × Disk) := do
  let job ← buffer.prepareSave codecs path?
  let disk ← disk.write job.target job.bytes
  return (job.length, buffer.markSaved job.target, disk)

end Buffer

end LineEditor

import LineEditor.Console.Program

/-!
# The program

Standard input and output, the environment and the files of the working
directory, for the console program.  Before a line is submitted, the files that
it may name are looked up, and afterwards those that have changed are written.
-/

set_option autoImplicit false

namespace LineEditor.Console

/-- Looks up what is at some paths. -/
def lookUp (disk : Disk) (paths : List String) : IO Disk :=
  paths.foldlM
    (fun disk (path : String) => do
      try return disk.withFile path (← IO.FS.readBinFile path)
      catch
        | .noFileOrDirectory .. => return disk
        | .permissionDenied .. => return disk
        | _ => return disk.withDirectory path)
    disk

/-- Writes the files that have changed. -/
def writeBack (before after : Disk) : IO Unit :=
  for (path, bytes) in changedFiles before after do
    IO.FS.writeBinFile path bytes

/-- Writes what the host has to say. -/
def deliver (output : IO.FS.Stream) (host : Host) : IO Host := do
  for text in host.writes do
    output.putStr text
  output.flush
  return { host with writes := #[] }

/-- Runs rounds until the session ends; gives the exit code. -/
partial def converse (input output : IO.FS.Stream) (host : Host) : IO UInt32 := do
  if host.editor.session.ended then return 0
  let prompted ← deliver output host.showPrompt
  let raw ← input.getLine
  let paths := mentionedPaths raw ++ prompted.editor.buffer.path?.toList
  let disk ← lookUp prompted.editor.disk paths
  let (outcome, fed) := { prompted with editor := { prompted.editor with disk } }.feed raw
  writeBack disk fed.editor.disk
  let next ← deliver output fed
  match outcome with
  | .ok () => converse input output next
  | .error fault =>
    IO.eprintln fault.message
    return 1

/-- The variables that are set. -/
def readEnvironment : IO Environment :=
  Environment.names.filterMapM fun name => do
    return (← IO.getEnv (Environment.namePart ++ name)).map (name, ·)

/-- Runs the program with the words of its command line. -/
def runProgram (arguments : List String) : IO UInt32 := do
  let output ← IO.getStdout
  let disk ← lookUp {} (arguments.flatMap mentionedPaths)
  let loggerName? ← IO.getEnv (Environment.namePart ++ "LOGGER")
  let surroundings : Surroundings :=
    { arguments
      environment := ← readEnvironment
      loggerName := loggerName?.getD Telemetry.defaultLoggerName
      disk }
  match start surroundings [] with
  | .ready host => converse (← IO.getStdin) output host
  | .help =>
    output.putStr usage
    return 0
  | .misuse =>
    IO.eprint usage
    return 2
  | .failed fault written =>
    output.putStr written
    IO.eprintln fault.message
    return 1

end LineEditor.Console

/-- Edits a file line by line on standard input and output. -/
def main (arguments : List String) : IO UInt32 :=
  LineEditor.Console.runProgram arguments

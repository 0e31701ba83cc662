import LineEditor.Console.Host
import LineEditor.Console.Options

/-!
# The console program

From the words of the command line and the environment variables to a running
host: the options are read, the settings are taken from the environment, the
file is loaded and its size is written.

What has been written when something goes wrong is kept with the fault.
-/

set_option autoImplicit false

namespace LineEditor.Console

/-- What a program is started with. -/
structure Surroundings where
  arguments : List String := []
  environment : Environment := []
  loggerName : String := Telemetry.defaultLoggerName
  disk : Disk := {}
  platform : Platform := {}

/-- How the start of a program comes out. -/
inductive Start where
  | ready (host : Host)
  | failed (fault : Fault) (written : String)
  | help
  | misuse

/-- The settings with what the options ask for. -/
def Options.configure (options : Options) (config : Config) : Config :=
  let prompted := match options.prompt? with
    | some prompt => { config with prompt, promptVisible := true }
    | none => config
  { prompted with verboseErrors := config.verboseErrors || options.verbose }

/-- The buffer of the file that is named, if one is. -/
def Options.loadBuffer (options : Options) (config : Config) (surroundings : Surroundings) :
    Except Fault (Option Buffer) :=
  match options.file?.filter (· != "") with
  | none => .ok none
  | some path =>
    (Buffer.load surroundings.platform.codecs surroundings.disk path config.encoding).map some

/-- What is written about a buffer that has been loaded. -/
def greeting : Option Buffer → String
  | none => ""
  | some buffer => toString buffer.text.length ++ "\n"

/-- A host for a buffer. -/
def openHost (surroundings : Surroundings) (config : Config) (buffer? : Option Buffer)
    (input : List String) : Except Fault Host := do
  let store : Telemetry.Store :=
    { environment := surroundings.environment, defaultName := surroundings.loggerName }
  let journal ← (Telemetry.openJournal.run store).1
  let editor ← Editor.launch
    { config, buffer?, disk := surroundings.disk, platform := surroundings.platform } journal
  return (Host.attach editor input).write (greeting buffer?)

/-- Starts with options. -/
def startWith (surroundings : Surroundings) (options : Options) (input : List String) : Start :=
  match Config.ofEnvironment surroundings.environment with
  | .error fault => .failed fault ""
  | .ok fromEnvironment =>
    let config := options.configure fromEnvironment
    match options.loadBuffer config surroundings with
    | .error fault => .failed fault ""
    | .ok buffer? =>
      match openHost surroundings config buffer? input with
      | .ok host => .ready host
      | .error fault => .failed fault (greeting buffer?)

/-- The paths below the working directory that a line may name, with those of the directories that
lead to them: its arguments as a whole, and each of its words. -/
def mentionedPaths (line : String) : List String :=
  let words := (line.toList.splitBy fun one next => !Text.isBlank one && !Text.isBlank next).map
    String.ofList
  let candidates := Text.strip (CommandLine.scan line).args :: words.map Text.strip
  let relative := candidates.filter fun path => !FilePath.isAbsolute path && !Disk.hasNul path
  relative.flatMap fun path =>
    let parts := FilePath.components path
    (List.range parts.length).map fun count => "/".intercalate (parts.take (count + 1))

/-- The files of a disk that are not on another one, or differ there. -/
def changedFiles (before after : Disk) : List (String × ByteArray) :=
  after.listing.filter fun (path, bytes) => before.listing.lookup path != some bytes

/-- How the program is to be called. -/
def usage : String :=
  "usage: [-h] [-p PROMPT] [-v] [file]\n"

/-- Starts the program. -/
def start (surroundings : Surroundings) (input : List String) : Start :=
  match Parse.words surroundings.arguments with
  | .options options => startWith surroundings options input
  | .help => .help
  | .misuse => .misuse

end LineEditor.Console

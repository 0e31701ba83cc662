import LineEditor.Editor.Submission

/-!
# Starting an editor

An editor is made for a buffer.  Without a command table of its own it gets the
editor's own commands, each registered with the log; then the two modes are
registered.  A table that is given is taken as it is, even if it is empty.
`Editor.openFile` makes one for the buffer of a file.
-/

set_option autoImplicit false

namespace LineEditor

/-- The log of the command table. -/
def commandsLoggerName : String := "ed_engine.commands"

/-- Tells the log that a command has been registered. -/
def Telemetry.Journal.noteRegistration (journal : Telemetry.Journal) (spec : CommandSpec) :
    Telemetry.Journal :=
  let (span, entered) := journal.enter (Registry.registrationSpan (some commandsLoggerName) spec)
  entered.leave span none

/-- What an editor is made from. -/
structure LaunchOptions where
  config : Config := {}
  buffer? : Option Buffer := none
  table? : Option Registry := none
  loadOwn : Bool := true
  disk : Disk := {}
  platform : Platform := {}

namespace Editor

/-- The command table of an editor, and the journal after it has been made. -/
def tableFor (options : LaunchOptions) (journal : Telemetry.Journal) :
    Registry × Telemetry.Journal :=
  match options.table? with
  | some registry => (registry, journal)
  | none =>
    if options.loadOwn then
      (Registry.own, Registry.ownCommands.foldl Telemetry.Journal.noteRegistration journal)
    else ({}, journal)

/-- An editor without modes. -/
def withoutModes (options : LaunchOptions) (journal : Telemetry.Journal) : Editor :=
  let (registry, journal) := tableFor options (journal.prepare EditorM.modesLoggerName)
  { config := options.config
    registry
    buffer := options.buffer?.getD (.make { encoding := options.config.encoding })
    session := .ofConfig options.config
    disk := options.disk
    platform := options.platform
    journal }

/-- An editor that is ready for lines. -/
def launch (options : LaunchOptions) (journal : Telemetry.Journal) : Except Fault Editor :=
  let registerModes : EditorM Unit := do
    EditorM.registerMode .command
    EditorM.registerMode .text
  match registerModes.runOn (withoutModes options journal) with
  | (.ok (), editor) => .ok editor
  | (.error fault, _) => .error fault

/-- An editor for the file at a path. -/
def openFile (config : Config) (disk : Disk) (platform : Platform) (path : String)
    (journal : Telemetry.Journal) : Except Fault Editor := do
  let buffer ← Buffer.load platform.codecs disk path config.encoding
  launch { config, buffer? := some buffer, disk, platform } journal

end Editor

end LineEditor

import LineEditor.Buffer.Edit
import LineEditor.Buffer.File
import LineEditor.Command.Registry
import LineEditor.Platform

/-!
# Editors

An editor is a buffer and a session together with the command table, the disk,
the platform it stands on, and what has been told to the outside: the events for
the host and the calls on the log.

`EditorM` is a computation with an editor that may end in a fault.  What was
done before a fault stays done, unless a transaction around it is rolled back.
Three brackets have a say in that: `EditorM.span` reports to the log on both
ends, `EditorM.transaction` keeps or undoes the edits inside of it, and
`EditorM.restoringSearch` forgets the searches of a refused command.
-/

set_option autoImplicit false

namespace LineEditor

/-- What can be registered as a mode: the two modes proper, the bare notion of a mode, and bare
modes under the names of the two. -/
inductive ModeClass where
  | command
  | text
  | bare
  | bareCommand
  | bareText
  deriving DecidableEq

namespace ModeClass

/-- The name under which a mode is registered. -/
def modeName : ModeClass → String
  | .command | .bareCommand => "command"
  | .text | .bareText => "text"
  | .bare => "mode"

/-- The name of the class itself. -/
def className : ModeClass → String
  | .command => "CommandMode"
  | .text => "InsertMode"
  | .bare => "Mode"
  | .bareCommand => "PlainCommand"
  | .bareText => "PlainText"

end ModeClass

/-- What has been registered for each of the two modes. -/
structure Modes where
  command? : Option ModeClass := none
  text? : Option ModeClass := none
  deriving DecidableEq

namespace Modes

/-- What has been registered for a mode. -/
def get? (modes : Modes) : Mode → Option ModeClass
  | .command => modes.command?
  | .text => modes.text?

/-- Registers a class for a mode. -/
def set (modes : Modes) (mode : Mode) (modeClass : ModeClass) : Modes :=
  match mode with
  | .command => { modes with command? := some modeClass }
  | .text => { modes with text? := some modeClass }

end Modes

/-- What a host is told. -/
inductive Event where
  | commandSubmitted (line : String)
  | commandRefused (refusal : Refusal)
  | textBegun (after : Int)
  | textEnded (count : Nat)
  | sessionEnded
  deriving DecidableEq

/-- The name of an event. -/
def Event.name : Event → String
  | .commandSubmitted _ => "command.submit"
  | .commandRefused _ => "command.error"
  | .textBegun _ => "insert.begin"
  | .textEnded _ => "insert.end"
  | .sessionEnded => "session.end"

/-- What an event carries, as text for the log. -/
def Event.payload : Event → String
  | .commandSubmitted line => line
  | .commandRefused refusal => refusal.message
  | .textBegun after => toString after
  | .textEnded count => toString count
  | .sessionEnded => "None"

/-- An editor.  `pending` says that a transaction is kept open until text entry ends, `entered`
counts the lines of the text being entered, and `hosted` says that a host listens to the events. -/
structure Editor where
  config : Config := {}
  registry : Registry := {}
  modes : Modes := {}
  buffer : Buffer := {}
  session : Session := {}
  disk : Disk := {}
  platform : Platform := {}
  journal : Telemetry.Journal
  events : Array Event := #[]
  pending : Bool := false
  entered : Nat := 0
  hosted : Bool := false

/-- A computation with an editor. -/
abbrev EditorM := ExceptT Fault (StateM Editor)

namespace Editor

/-- The editor with its session changed. -/
def updateSession (editor : Editor) (change : Session → Session) : Editor :=
  { editor with session := change editor.session }

/-- The editor with its journal changed. -/
def updateJournal (editor : Editor) (change : Telemetry.Journal → Telemetry.Journal) : Editor :=
  { editor with journal := change editor.journal }

/-- Tells the host of an event; a host that listens logs it. -/
def emit (editor : Editor) (event : Event) : Editor :=
  let told := { editor with events := editor.events.push event }
  if editor.hosted then
    told.updateJournal fun journal =>
      journal.message "ed_engine.adapters.console" .debug "event ->"
        [("event", event.name), ("payload", event.payload)]
  else told

/-- Opens a transaction. -/
def enterTransaction (editor : Editor) (label : String) : Editor :=
  { editor with buffer := editor.buffer.enter label }

/-- Logs how the outermost transaction ended. -/
def reportTransaction (editor : Editor) (outcome label : String) : Editor :=
  editor.updateJournal fun journal =>
    journal.event ("buffer." ++ outcome) [("buffer", editor.buffer.name), ("label", label)]

/-- Leaves the innermost open transaction, normally or because of a fault. -/
def leaveTransaction (editor : Editor) (succeeded : Bool) : Editor :=
  let buffer := if succeeded then editor.buffer.commit else editor.buffer.rollback
  let left := { editor with buffer }
  match editor.buffer.opened?, editor.buffer.depth with
  | some checkpoint, 0 =>
    left.reportTransaction (if succeeded then "commit" else "rollback") checkpoint.label
  | _, _ => left

end Editor

namespace EditorM

/-- Runs a computation. -/
def runOn {α : Type} (computation : EditorM α) (editor : Editor) : Except Fault α × Editor :=
  (ExceptT.run computation).run editor

/-- Refuses the command. -/
def refuse {α : Type} (refusal : Refusal) : EditorM α :=
  throw (.refusal refusal)

/-- Changes the session. -/
def modifySession (change : Session → Session) : EditorM Unit :=
  modify (·.updateSession change)

/-- Changes the buffer in a way that may fail, in which case nothing changes. -/
def modifyBuffer (change : Buffer → Except Fault Buffer) : EditorM Unit := do
  let editor ← get
  let buffer ← (change editor.buffer : Except Fault Buffer)
  set { editor with buffer }

/-- Changes the buffer by an edit, which forms a transaction of its own if none is open; the log is
then told of it. -/
def editBuffer (label : String) (hasEffect : Bool) (change : Buffer → Except Fault Buffer) :
    EditorM Unit := do
  let wasOpen := (← get).buffer.opened?.isSome
  modifyBuffer change
  if hasEffect && !wasOpen then modify (·.reportTransaction "commit" label)

/-- Inserts lines. -/
def insertLines (after : Int) (lines : List String) : EditorM Unit :=
  editBuffer "insert_lines" (!lines.isEmpty) (·.insertLines after lines)

/-- Deletes a range of lines. -/
def deleteRange (start finish : Int) : EditorM Unit :=
  editBuffer "delete_range" true (·.deleteRange start finish)

/-- Makes a line the current one. -/
def setCurrent (line : Int) : EditorM Unit :=
  modifyBuffer (·.setCurrent line)

/-- Tells the host of an event. -/
def emit (event : Event) : EditorM Unit :=
  modify (·.emit event)

/-! ## Brackets -/

/-- The fault of an outcome. -/
def faultOf? {α : Type} : Except Fault α → Option Fault
  | .ok _ => none
  | .error fault => some fault

/-- Does work inside a span of the log. -/
def span {α : Type} (request : Telemetry.SpanRequest) (work : EditorM α) : EditorM α :=
  ExceptT.mk fun editor =>
    let (span, journal) := editor.journal.enter request
    let (outcome, inner) := work.runOn { editor with journal }
    (outcome, inner.updateJournal (·.leave span (faultOf? outcome)))

/-- Does work inside a transaction.  A result that satisfies `keepOpen` leaves the transaction open
until text entry ends. -/
def transaction {α : Type} (label : String) (keepOpen : α → Bool) (work : EditorM α) :
    EditorM α :=
  ExceptT.mk fun editor =>
    match work.runOn (editor.enterTransaction label) with
    | (.ok result, inner) =>
      (.ok result,
        if keepOpen result then { inner with pending := true } else inner.leaveTransaction true)
    | (.error fault, inner) => (.error fault, inner.leaveTransaction false)

/-- Does work after whose refusal the remembered search is the one from before. -/
def restoringSearch {α : Type} (work : EditorM α) : EditorM α :=
  ExceptT.mk fun editor =>
    match work.runOn editor with
    | (.error (.refusal refusal), inner) =>
      (.error (.refusal refusal),
        inner.updateSession fun session =>
          { session with lastSearch? := editor.session.lastSearch? })
    | outcome => outcome

end EditorM

end LineEditor

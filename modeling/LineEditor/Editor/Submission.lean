import LineEditor.Editor.Switching

/-!
# Submitting lines

The one way into an editor: a line is submitted to the active mode, and the
answer says what to show.  Here every refusal ends: it is recorded, the host is
told, and the answer is a question mark.  Any other fault passes through to the
host.

`EditorM.runScript` submits lines until the session ends.
-/

set_option autoImplicit false

namespace LineEditor

/-- What an answer amounts to. -/
inductive OutputKind where
  | text
  | error
  | ended
  | none
  deriving DecidableEq

/-- The name of a kind. -/
def OutputKind.name : OutputKind → String
  | .text => "text"
  | .error => "error"
  | .ended => "ended"
  | .none => "none"

/-- What to show after a line. -/
structure Output where
  kind : OutputKind
  lines : List String := []
  deriving DecidableEq

/-- The lines of an answer as one text. -/
def Output.text (output : Output) : String :=
  "\n".intercalate output.lines

/-- A line without the line feed and the carriage return at its end. -/
def withoutLineEnd (raw : String) : String :=
  let chars := raw.toList
  let unfed := if chars.getLast? = some '\n' then chars.dropLast else chars
  String.ofList (if unfed.getLast? = some '\r' then unfed.dropLast else unfed)

/-- The name of a kind of refusals in the log. -/
def RefusalKind.logName : RefusalKind → String
  | .general => "EdError"
  | .range => "RangeError"
  | .address => "AddressResolutionError"
  | .argument => "ArgumentError"
  | .unsavedChanges => "ModifiedBufferWarning"
  | .inputOutput => "CommandIOError"

namespace EditorM

/-- The log of what concerns all modes. -/
def modesLoggerName : String := "ed_engine.modes"

/-- The answer to a refused line. -/
def answerRefusal (refusal : Refusal) : EditorM Reply := do
  let message := refusal.message
  modifySession fun session => { session with lastError := message }
  emit (.commandRefused refusal)
  modify (·.updateJournal fun journal =>
    journal.message modesLoggerName .debug "command failed"
      [("kind", refusal.kind.logName), ("error", message)])
  let output := (← get).session.errorMarker message
  return { status := "error", output, message? := some message }

/-- Does work; a refusal is answered. -/
def answeringRefusals (work : EditorM Reply) : EditorM Reply :=
  ExceptT.mk fun editor =>
    match work.runOn editor with
    | (.error (.refusal refusal), inner) => (answerRefusal refusal).runOn inner
    | outcome => outcome

/-- The span in which a mode handles a line. -/
def modeSpan (modeClass : ModeClass) : Telemetry.SpanRequest where
  name := "mode::" ++ modeClass.modeName
  component? := some ("mode::" ++ modeClass.modeName)
  metadata := [("mode", modeClass.modeName)]

/-- Ends the session. -/
def endSession (status : String) : EditorM Unit := do
  modifySession fun session => { session with ended := true }
  emit .sessionEnded
  modify (·.updateJournal (·.event "session.end" [("status", status)]))

/-- Carries out what a reply asks for, and gives what it shows. -/
def conclude (reply : Reply) : EditorM Output := do
  match reply.switchTo?.filter (· != "") with
  | some name => switchMode name
  | none => pure ()
  if reply.ended then
    endSession reply.status
    return { kind := .ended, lines := reply.output }
  else if reply.status = "error" then return { kind := .error, lines := reply.output }
  else if reply.output.isEmpty then return { kind := .none }
  else return { kind := .text, lines := reply.output }

/-- Submits a line. -/
def submit (raw : String) : EditorM Output := do
  let editor ← get
  if editor.session.ended then return { kind := .ended }
  match editor.activeMode? with
  | none => throw (.noActiveMode editor.session.mode.name)
  | some modeClass =>
    let reply ← answeringRefusals <|
      span (modeSpan modeClass) (handleLine modeClass (withoutLineEnd raw))
    conclude reply

/-- Submits lines until the session ends. -/
def runScript : List String → EditorM (List Output)
  | [] => return []
  | line :: rest => do
    let output ← submit line
    if (← get).session.ended then return [output]
    return output :: (← runScript rest)

end EditorM

/-- The prompt to show before the next line. -/
def Editor.prompt (editor : Editor) : String :=
  if editor.session.promptVisible ∧ editor.session.mode = .command then editor.config.prompt
  else ""

end LineEditor

import LineEditor.Editor.Dispatch
import LineEditor.Editor.TextEntry

/-!
# Modes and switching between them

A mode takes whole lines: the command mode dispatches them and the text mode
inserts them.  The bare modes take none; they stand for modes of a host's own
that have not been given anything to do.

Each of the two mode names can be registered once.  Switching leaves one mode
and enters the other, and both may have something to say about it.
-/

set_option autoImplicit false

namespace LineEditor

namespace Editor

/-- The mode that takes the next line. -/
def activeMode? (editor : Editor) : Option ModeClass :=
  editor.modes.get? editor.session.mode

end Editor

namespace EditorM

/-- The log of the command mode. -/
def commandLoggerName : String := "ed_engine.modes.command"

/-- Makes the log of a mode, if it has one. -/
def prepareLogger (modeClass : ModeClass) : EditorM Unit :=
  match modeClass with
  | .command => modify (·.updateJournal (·.prepare commandLoggerName))
  | .text => modify (·.updateJournal (·.prepare textLoggerName))
  | _ => pure ()

/-- What a mode does when it is entered. -/
def enterMode : ModeClass → EditorM Unit
  | .text => beginText
  | _ => pure ()

/-- What a mode does when it is left. -/
def leaveMode : ModeClass → EditorM Unit
  | .text => endText
  | _ => pure ()

/-- What a mode does with a line. -/
def handleLine (modeClass : ModeClass) (line : String) : EditorM Reply :=
  match modeClass with
  | .command => handleCommand line
  | .text => handleText line
  | _ => throw (.modeWithoutInput modeClass.className)

/-- Registers a mode under its name, and enters it if it is the one that takes the next line. -/
def registerMode (modeClass : ModeClass) : EditorM Unit := do
  prepareLogger modeClass
  let mode ← (Mode.ofName modeClass.modeName : Except Fault Mode)
  if ((← get).modes.get? mode).isSome then throw (.modeTaken modeClass.modeName)
  modify fun editor => { editor with modes := editor.modes.set mode modeClass }
  if mode = (← get).session.mode then enterMode modeClass

/-- Switches to the mode with a name. -/
def switchMode (name : String) : EditorM Unit := do
  let target ← (Mode.ofName name : Except Fault Mode)
  match (← get).modes.get? target with
  | none => throw (.modeMissing name)
  | some targetClass =>
    if target ≠ (← get).session.mode then
      match (← get).activeMode? with
      | some previous => leaveMode previous
      | none => pure ()
      modifySession fun session => { session with mode := target }
      enterMode targetClass
      modify (·.updateJournal (·.event "mode.switch" [("mode", name)]))

end EditorM

end LineEditor

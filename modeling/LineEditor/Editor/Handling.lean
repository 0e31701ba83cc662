import LineEditor.Editor.Change
import LineEditor.Editor.Display
import LineEditor.Editor.Outside
import LineEditor.Editor.Status

/-!
# What commands do

`Handler.run` gives every handler its effect: those of the editor's own
commands, and the scripted ones of commands that a host adds.  A scripted
handler answers with the last reply its steps make.
-/

set_option autoImplicit false

namespace LineEditor

/-- What one of the editor's own handlers does. -/
def Builtin.run (handler : Builtin) (invocation : Invocation) : EditorM Reply :=
  match handler with
  | .lineNumber => EditorM.showLineNumber invocation
  | .runShell => EditorM.runShell invocation
  | .appendText => EditorM.appendText invocation
  | .changeLines => EditorM.changeLines invocation
  | .deleteLines => EditorM.deleteLines invocation
  | .showFileName => EditorM.showFileName
  | .showError => EditorM.showError
  | .toggleVerbose => EditorM.toggleVerbose
  | .insertText => EditorM.insertText invocation
  | .joinLines => EditorM.joinLines invocation
  | .setMark => EditorM.setMark invocation
  | .listLines => EditorM.listLines invocation
  | .moveLines => EditorM.moveLines invocation
  | .numberLines => EditorM.numberLines invocation
  | .printLines => EditorM.printLines invocation
  | .togglePrompt => EditorM.togglePrompt
  | .quit => EditorM.quit
  | .quitUnconditionally => EditorM.quitUnconditionally
  | .readFile => EditorM.readFile invocation
  | .substitute => EditorM.substitute invocation
  | .copyLines => EditorM.copyLines invocation
  | .undo => EditorM.undo
  | .writeFile => EditorM.writeFile invocation
  | .comment => EditorM.comment

/-! ## Scripted handlers -/

/-- What a handler was given, as one line of text. -/
def Invocation.summary (invocation : Invocation) : String :=
  let fields := [
    Text.asciiLiteral invocation.letter.toString,
    Text.asciiLiteral invocation.args,
    toString invocation.start,
    (invocation.finish?.map toString).getD "null",
    toString invocation.stop,
    toString invocation.addressed]
  "[" ++ ", ".intercalate fields ++ "]"

/-- What a step does, and the reply after it. -/
def ScriptStep.run (invocation : Invocation) (reply : Reply) (step : ScriptStep) : EditorM Reply :=
  match step with
  | .delete => do
    EditorM.deleteRange invocation.start invocation.stop
    return reply
  | .deleteRange start finish => do
    EditorM.deleteRange start finish
    return reply
  | .insert after lines => do
    EditorM.insertLines after lines
    return reply
  | .setCurrent line => do
    EditorM.setCurrent line
    return reply
  | .setSearch text? => do
    EditorM.modifySession fun session => { session with lastSearch? := text? }
    return reply
  | .fail fault => throw fault
  | .echo => return { output := [invocation.summary] }
  | .reply newReply => return newReply
  | .noReply => return {}

/-- What a handler does. -/
def Handler.run (handler : Handler) (invocation : Invocation) : EditorM Reply :=
  match handler with
  | .builtin own => own.run invocation
  | .scripted _ steps => steps.foldlM (ScriptStep.run invocation) {}

end LineEditor

import LineEditor.CommandLine
import LineEditor.Editor.Handling

/-!
# Dispatching command lines

A command line is scanned, its addresses are resolved and checked, and the
command bound to its letter is invoked.  A line without a letter, or with a
letter that is not bound, goes to the line that it addresses and prints it.

The checks come before the letter is looked at, so a handler only ever sees
lines that can be addressed (`checkLines`, `bindLines`).
-/

set_option autoImplicit false

namespace LineEditor

/-- Checks that one resolved line can be addressed. -/
def Buffer.checkAddress (buffer : Buffer) : Option Int → Except Fault (Option Nat)
  | none => .ok none
  | some line =>
    if line < 1 ∨ line > buffer.lastLine then .error (.refusal .outOfRange)
    else .ok (some line.toNat)

/-- Checks that resolved lines can be addressed and are in order. -/
def Buffer.checkLines (buffer : Buffer) (start? finish? : Option Int) :
    Except Fault (Option Nat × Option Nat) := do
  let first? ← buffer.checkAddress start?
  let last? ← buffer.checkAddress finish?
  match first?, last? with
  | some first, some last => if last < first then throw (.refusal .outOfRange)
  | _, _ => pure ()
  return (first?, last?)

/-- What a command is given: its contract says which addresses it accepts, and what stands for
those that are missing. -/
def CommandSpec.bindLines (spec : CommandSpec) (current : Nat) (args : String)
    (start? finish? : Option Nat) : Except Fault Invocation :=
  let addressed := start?.isSome || finish?.isSome
  if spec.arity = .noAddress ∧ addressed then .error (.refusal (.argument .unexpectedAddress))
  else if spec.arity = .oneAddress ∧ finish?.isSome then
    .error (.refusal (.argument .unexpectedAddress))
  else
    let start := start?.getD current
    .ok { letter := spec.letter, args, start, addressed
          finish? := if spec.arity = .range then some (finish?.getD start) else finish? }

namespace EditorM

/-- Resolves an address token unless it is empty. -/
def resolveToken (token : String) : EditorM (Option Int) := do
  if token.isEmpty then return none
  return some (← resolveAddress token)

/-- The line to go to. -/
def navigationTarget (buffer : Buffer) (line : CommandLine) (start? finish? : Option Nat) :
    Except Fault Nat :=
  match finish?, start? with
  | some target, _ => .ok target
  | none, some target => .ok target
  | none, none =>
    if line.letter?.isSome then .error (.refusal (.argument .unknownCommand))
    else if buffer.current + 1 > buffer.lineCount then .error (.refusal .outOfRange)
    else .ok (buffer.current + 1)

/-- Goes to a line and prints it. -/
def navigate (line : CommandLine) (start? finish? : Option Nat) : EditorM Reply := do
  let target ← (navigationTarget (← get).buffer line start? finish? : Except Fault Nat)
  setCurrent target
  let lines ← ((← get).buffer.readRange target target : Except Fault (List String))
  return { status := "navigate", output := lines }

/-- Runs the handler of a command inside its span. -/
def call (spec : CommandSpec) (invocation : Invocation) : EditorM Reply :=
  span
    { name := spec.spanName
      metadata := [("start", toString invocation.start), ("end", toString invocation.stop)] }
    (spec.handler.run invocation)

/-- Whether a reply opens text entry. -/
def opensText (reply : Reply) : Bool :=
  reply.switchTo? == some Mode.text.name

/-- Invokes a command; one that changes the buffer runs in a transaction, which text entry keeps
open. -/
def invoke (spec : CommandSpec) (invocation : Invocation) : EditorM Reply :=
  if spec.mutates then transaction spec.letter.toString opensText (call spec invocation)
  else call spec invocation

/-- Does what a scanned line says. -/
def dispatch (line : CommandLine) : EditorM Reply := do
  let start? ← resolveToken line.first
  let finish? ← resolveToken line.second
  let editor ← get
  let (first?, last?) ←
    (editor.buffer.checkLines start? finish? : Except Fault (Option Nat × Option Nat))
  match line.letter?.bind editor.registry.find? with
  | none => navigate line first? last?
  | some spec =>
    let invocation ←
      (spec.bindLines editor.buffer.current line.args first? last? : Except Fault Invocation)
    invoke spec invocation

/-- The span in which a line is dispatched. -/
def dispatchSpan (line : CommandLine) : Telemetry.SpanRequest where
  name := "commands::dispatch"
  component? := some "commands"
  metadata := [("letter", (line.letter?.map Char.toString).getD "<none>")]

/-- Handles a line as a command. -/
def handleCommand (text : String) : EditorM Reply := do
  emit (.commandSubmitted text)
  let line := CommandLine.scan text
  span (dispatchSpan line) (restoringSearch (dispatch line))

end EditorM

end LineEditor

import LineEditor.Proofs.Editor.Escapes
import LineEditor.Proofs.Editor.Parts
import LineEditor.Proofs.Editor.UndoStack

/-!
# Commands that are performed

A command line that is answered without an error has been planned, carried out
and concluded, and nothing else has happened (`Editor.Completed`).  So what such
a line leaves behind can be read off the runs of these three.

A command is performed by a line with its letter that is completed
(`Editor.performs`), and then it is invoked with the arguments of the line, for
the line that the first address resolves to, or else the current one
(`Editor.CommandReady.performed`).
-/

set_option autoImplicit false

namespace LineEditor

namespace EditorM

variable {α : Type}

/-- What a computation ensures without more ado is its run. -/
theorem ensures_ran (work : EditorM α) (editor : Editor) :
    work.Ensures editor (fun result after => work.runOn editor = (.ok result, after))
      (fun fault after => work.runOn editor = (.error fault, after)) := by
  rw [Ensures]
  split
  · assumption
  · assumption

/-- What a line plans to invoke is given the arguments of the line, and it starts at the first line
that is resolved, or else at the current one. -/
theorem ensures_plan_given (text : String) (editor : Editor) :
    (plan (CommandLine.scan text)).Ensures editor
      (fun request _ => ∀ spec invocation, request = .invoke spec invocation →
        invocation.args = (CommandLine.scan text).args ∧
          ∃ lines, ((resolveLines (CommandLine.scan text)).runOn editor).1 = .ok lines ∧
            invocation.start = lines.1.getD editor.buffer.current)
      (fun _ _ => True) := by
  simp only [plan, ensures_bind]
  refine (ensures_resolveLines text editor).traced.mono ?_ (fun _ _ _ => trivial)
  rintro lines middle ⟨⟨sought, -⟩, resolved⟩
  simp only [bindRequest, ensures_bind, ensures_get]
  split
  · rw [ensures_pure]
    intro spec invocation impossible
    cases impossible
  · simp only [ensures_bind, ensures_lift, ensures_pure]
    refine ⟨?_, fun _ _ => trivial⟩
    rintro invocation bound _ _ ⟨⟩
    rw [sought.buffer] at bound
    exact ⟨bindLines_args bound, lines, by rw [resolved], (CommandSpec.bindLines_lines bound).1⟩

end EditorM

namespace Editor

/-- A command line has been planned, carried out and concluded. -/
structure Completed (editor : Editor) (raw : String) (request : EditorM.Request) (middle : Editor)
    (reply : Reply) (inner : Editor) (output : Output) : Prop where
  planned : ∃ journal, (EditorM.plan (CommandLine.scan (withoutLineEnd raw))).runOn
    (editor.told raw journal) = (.ok request, middle)
  carriedOut : (EditorM.carryOut (CommandLine.scan (withoutLineEnd raw)) request).runOn middle =
    (.ok reply, inner)
  concluded : ∃ journal, (EditorM.conclude reply).runOn { inner with journal } =
    (.ok output, editor.next raw)

/-- Whether a line performs the command with a letter: it is read as a command line with that
letter and completed. -/
def performs (editor : Editor) (raw : String) (letter : Char) : Bool :=
  editor.session.mode == .command && submittedLetter? raw == some letter &&
    editor.completes (editor.answer raw)

/-- The line that a command line starts at: the one that its first address resolves to, or else the
current line. -/
def startLine? (editor : Editor) (raw : String) : Option Nat :=
  ((EditorM.resolveLines (CommandLine.scan (withoutLineEnd raw))).runOn editor).1.toOption.map
    fun lines => lines.1.getD editor.buffer.current

variable {editor middle inner : Editor} {raw : String} {request : EditorM.Request} {reply : Reply}
  {output : Output} {letter : Char} {spec : CommandSpec} {invocation : Invocation}

theorem completes_iff : editor.completes (editor.answer raw) = true ↔
    editor.session.ended = false ∧ ∃ output, editor.answer raw = .ok output ∧
      output.kind ≠ .error := by
  cases editor.answer raw with
  | ok output => simp [completes]
  | error fault => simp [completes]

theorem performs_iff : editor.performs raw letter = true ↔
    editor.session.mode = .command ∧ submittedLetter? raw = some letter ∧
      editor.completes (editor.answer raw) = true := by
  simp [performs, and_assoc]

/-- **A command line that is completed has been planned, carried out and concluded.** -/
theorem AwaitsCommand.completed (awaits : editor.AwaitsCommand)
    (answered : editor.answer raw = .ok output) (succeeded : output.kind ≠ .error) :
    ∃ request middle reply inner, editor.Completed raw request middle reply inner output := by
  have ensured : (EditorM.submit raw).Ensures editor
      (fun output after => output.kind ≠ .error → after = editor.next raw →
        ∃ request middle reply inner, editor.Completed raw request middle reply inner output)
      (fun _ _ => True) := by
    refine EditorM.ensures_submit_dispatch awaits fun journal => ?_
    refine (EditorM.ensures_ran _ _).mono ?_ ?_
    · intro reply inner ran journal'
      refine (EditorM.ensures_ran _ _).mono ?_ (fun _ _ _ => trivial)
      rintro output after concluded succeeded rfl
      rw [EditorM.dispatch_eq, EditorM.runOn_bind] at ran
      cases planned : (EditorM.plan (CommandLine.scan (withoutLineEnd raw))).runOn
          (editor.told raw journal) with
      | mk outcome middle =>
          rw [planned] at ran
          cases outcome with
          | error fault => cases ran
          | ok request =>
              exact ⟨request, middle, reply, inner, ⟨journal, planned⟩, ran, ⟨journal', concluded⟩⟩
    · intro fault inner _ journal'
      exact ⟨fun refusal _ failed => absurd rfl failed, fun _ => trivial⟩
  exact (ensured.of_ok answered) succeeded rfl

namespace Completed

variable (completed : editor.Completed raw request middle reply inner output)
include completed

theorem sought : ∃ journal, (editor.told raw journal).Sought middle ∧
    request.Bound (CommandLine.scan (withoutLineEnd raw)) (editor.told raw journal) := by
  obtain ⟨journal, planned⟩ := completed.planned
  obtain ⟨sought, bound, -⟩ :=
    (EditorM.ensures_plan_bound (withoutLineEnd raw) (editor.told raw journal)).result planned
  exact ⟨journal, sought, bound⟩

/-- Planning leaves everything alone but what is remembered of searches. -/
theorem planned_same (part : Part) (other : part ≠ .lastSearch) : part.Same editor middle := by
  obtain ⟨journal, sought, -⟩ := completed.sought
  have untouched : (editor.told raw journal).Untouched [.lastSearch] middle :=
    sought.untouched (by decide)
  exact Part.Same.trans (.of_eq rfl rfl rfl) (untouched part (by simpa using other))

/-- What was planned was to invoke the command that is bound to the letter. -/
theorem request_eq
    (found : (submittedLetter? raw).bind editor.registry.find? = some spec) :
    ∃ invocation, request = .invoke spec invocation := by
  obtain ⟨journal, -, bound⟩ := completed.sought
  cases request with
  | visit first? last? => cases bound.symm.trans found
  | invoke other invocation =>
      cases bound.symm.trans found
      exact ⟨invocation, rfl⟩

/-- Concluding a command touches only what switching between the modes does, and whether the session
has ended. -/
theorem concluded_same (part : Part) (other : part ∉ [.lines, .history, .mode, .ended]) :
    part.Same inner (editor.next raw) := by
  obtain ⟨journal, concluded⟩ := completed.concluded
  have untouched : (EditorM.conclude reply).Steps (Untouched [.lines, .history, .mode, .ended]) :=
    EditorM.untouched_conclude (by decide) fun _ => by decide
  exact Part.Same.trans (.of_eq rfl rfl rfl) (((untouched _).result concluded).1 part other)

end Completed

theorem Completed.invokes
    (completed : editor.Completed raw (.invoke spec invocation) middle reply inner output) :
    editor.Invokes raw spec invocation := by
  obtain ⟨journal, planned⟩ := completed.planned
  rw [Invokes, ← EditorM.plan_alike (withoutLineEnd raw) editor (editor.told raw journal) rfl rfl
    rfl rfl, planned]

/-- What is invoked is given the arguments of the line and the line that it starts at. -/
theorem Invokes.given (invokes : editor.Invokes raw spec invocation) :
    invocation.args = (CommandLine.scan (withoutLineEnd raw)).args ∧
      editor.startLine? raw = some invocation.start := by
  obtain ⟨args, lines, resolved, start⟩ :=
    (EditorM.ensures_plan_given (withoutLineEnd raw) editor).of_ok invokes spec invocation rfl
  refine ⟨args, ?_⟩
  rw [startLine?, resolved, start]
  rfl

/-- **A command that is performed is invoked**, with the arguments of the line, for the line that it
starts at. -/
theorem CommandReady.performed (ready : editor.CommandReady)
    (performs : editor.performs raw letter = true)
    (found : Registry.own.find? letter = some spec) :
    ∃ output invocation middle reply inner,
      editor.answer raw = .ok output ∧ output.kind ≠ .error ∧
      editor.Completed raw (.invoke spec invocation) middle reply inner output ∧
      invocation.args = (CommandLine.scan (withoutLineEnd raw)).args ∧
      editor.startLine? raw = some invocation.start := by
  obtain ⟨awaiting, isLetter, completes⟩ := performs_iff.mp performs
  obtain ⟨goesOn, output, answered, succeeded⟩ := completes_iff.mp completes
  have awaits : editor.AwaitsCommand := ⟨ready.modes.active_command awaiting, goesOn⟩
  obtain ⟨request, middle, reply, inner, completed⟩ := awaits.completed answered succeeded
  have isBound : (submittedLetter? raw).bind editor.registry.find? = some spec := by
    rw [isLetter, ready.registry]
    exact found
  obtain ⟨invocation, rfl⟩ := completed.request_eq isBound
  exact ⟨output, invocation, middle, reply, inner, answered, succeeded, completed,
    completed.invokes.given⟩

end Editor

end LineEditor

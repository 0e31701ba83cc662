import LineEditor.Proofs.Editor.Candor
import LineEditor.Proofs.Editor.Reachable
import LineEditor.Proofs.Editor.Submitting

/-!
# Scripted commands that fail

A host may bind commands of its own that do anything to the buffer.  If such a
command is registered as changing the buffer and ends in a fault, the
transaction around it takes everything back, whatever the steps before the fault
were and whether or not they succeeded (`Editor.failed_script_rolled_back`).

The fault is that of the first step that fails, if one does, and else the one
with which the handler ends (`ScriptStep.raised`).
-/

set_option autoImplicit false

namespace LineEditor

namespace Editor

@[simp] theorem leaveTransaction_session (editor : Editor) (succeeded : Bool) :
    (editor.leaveTransaction succeeded).session = editor.session := by
  obtain ⟨change, left⟩ := editor.leaveTransaction_eq succeeded
  rw [left]
  rfl

@[simp] theorem leaveTransaction_platform (editor : Editor) (succeeded : Bool) :
    (editor.leaveTransaction succeeded).platform = editor.platform := by
  obtain ⟨change, left⟩ := editor.leaveTransaction_eq succeeded
  rw [left]
  rfl

@[simp] theorem leaveTransaction_buffer (editor : Editor) (succeeded : Bool) :
    (editor.leaveTransaction succeeded).buffer =
      if succeeded then editor.buffer.commit else editor.buffer.rollback := by
  obtain ⟨change, left⟩ := editor.leaveTransaction_eq succeeded
  rw [left]
  rfl

end Editor

namespace EditorM

variable {editor : Editor}

/-- What a change of the buffer comes to; if it fails, nothing has happened. -/
theorem ensures_editBuffer {label : String} {hasEffect : Bool}
    {change : Buffer → Except Fault Buffer} :
    (editBuffer label hasEffect change).Ensures editor
      (fun _ after => change editor.buffer = .ok after.buffer)
      (fun fault after => change editor.buffer = .error fault ∧ after = editor) := by
  simp only [editBuffer, ensures_bind, ensures_get, ensures_modifyBuffer]
  refine ⟨fun buffer success => ?_, fun fault failed => ⟨failed, trivial⟩⟩
  split
  · rw [ensures_modify]
    exact success
  · rw [ensures_pure]
    exact success

end EditorM

namespace ScriptStep

/-- What a step does to a buffer. -/
def change (invocation : Invocation) (buffer : Buffer) : ScriptStep → Except Fault Buffer
  | .delete => buffer.deleteRange invocation.start invocation.stop
  | .deleteRange start finish => buffer.deleteRange start finish
  | .insert after lines => buffer.insertLines after lines
  | .setCurrent line => buffer.setCurrent line
  | .fail fault => .error fault
  | _ => .ok buffer

/-- The fault of the first step that fails, or else the given one. -/
def raised (invocation : Invocation) (steps : List ScriptStep) (fault : Fault) (buffer : Buffer) :
    Fault :=
  match steps.foldlM (change invocation) buffer with
  | .ok _ => fault
  | .error earlier => earlier

variable (invocation : Invocation)

/-- A step does to the buffer what it says, and fails as it says. -/
theorem ensures_run (reply : Reply) (step : ScriptStep) (editor : Editor) :
    (step.run invocation reply).Ensures editor
      (fun _ after => step.change invocation editor.buffer = .ok after.buffer)
      (fun fault _ => step.change invocation editor.buffer = .error fault) := by
  have edited : ∀ {label : String} {hasEffect : Bool} {change : Buffer → Except Fault Buffer},
      (do EditorM.editBuffer label hasEffect change; return reply : EditorM Reply).Ensures editor
        (fun _ after => change editor.buffer = .ok after.buffer)
        (fun fault _ => change editor.buffer = .error fault) := by
    intro label hasEffect change
    simp only [EditorM.ensures_bind, EditorM.ensures_pure]
    exact EditorM.ensures_editBuffer.mono (fun _ _ success => success) fun _ _ failed => failed.1
  cases step with
  | delete => exact edited
  | deleteRange start finish => exact edited
  | insert after lines => exact edited
  | setCurrent line =>
      simp only [ScriptStep.run, EditorM.setCurrent, EditorM.ensures_bind,
        EditorM.ensures_modifyBuffer, EditorM.ensures_pure]
      exact ⟨fun _ success => success, fun _ failed => failed⟩
  | setSearch text? =>
      simp only [ScriptStep.run, EditorM.ensures_bind, EditorM.ensures_modifySession,
        EditorM.ensures_pure]
      rfl
  | fail fault => exact EditorM.ensures_throw fault |>.mpr rfl
  | echo => exact EditorM.ensures_pure _ |>.mpr rfl
  | reply newReply => exact EditorM.ensures_pure _ |>.mpr rfl
  | noReply => exact EditorM.ensures_pure _ |>.mpr rfl

/-- Steps one after the other do what they do to the buffer, up to the first that fails. -/
theorem ensures_foldlM (steps : List ScriptStep) : ∀ (reply : Reply) (editor : Editor),
    (steps.foldlM (ScriptStep.run invocation) reply).Ensures editor
      (fun _ after => editor.Worked after ∧
        steps.foldlM (change invocation) editor.buffer = .ok after.buffer)
      (fun fault after => editor.Worked after ∧
        steps.foldlM (change invocation) editor.buffer = .error fault) := by
  induction steps with
  | nil =>
      intro reply editor
      exact EditorM.ensures_pure reply |>.mpr ⟨Editor.Stepwise.refl editor, rfl⟩
  | cons step rest ih =>
      intro reply editor
      simp only [List.foldlM_cons, EditorM.ensures_bind]
      refine ((step.steps_run invocation reply editor).and
        (ensures_run invocation reply step editor)).mono ?_ ?_
      · rintro result middle ⟨⟨earlier, -⟩, changed⟩
        rw [changed]
        exact (ih result middle).mono
          (fun _ _ later => ⟨Editor.Stepwise.trans earlier later.1, later.2⟩)
          (fun _ _ later => ⟨Editor.Stepwise.trans earlier later.1, later.2⟩)
      · rintro fault middle ⟨earlier, failed⟩
        rw [failed]
        exact ⟨earlier, rfl⟩

/-- Steps behind which the handler fails end in a fault. -/
theorem foldlM_fail (steps : List ScriptStep) (fault : Fault) (buffer : Buffer) :
    (steps ++ [ScriptStep.fail fault]).foldlM (change invocation) buffer =
      .error (raised invocation steps fault buffer) := by
  rw [List.foldlM_append, raised]
  cases steps.foldlM (change invocation) buffer with
  | ok after => rfl
  | error earlier => rfl

end ScriptStep

section Failing

variable {editor : Editor} {raw : String} {spec : CommandSpec} {invocation : Invocation}
  {name : String} {steps : List ScriptStep} {fault : Fault}

namespace EditorM

/-- A handler that fails is called in a transaction that is taken back, and its fault passes
through. -/
theorem ensures_invoke_script (mutates : spec.mutates = true)
    (handler : spec.handler = .scripted name (steps ++ [.fail fault]))
    (closed : editor.buffer.opened? = none) :
    (invoke spec invocation).Ensures editor (fun _ _ => False)
      (fun raised after =>
        raised = ScriptStep.raised invocation steps fault
          (editor.buffer.enter spec.letter.toString) ∧
        editor.session.SameStanding after.session ∧
        after.buffer = { editor.buffer with depth := 0 }) := by
  rw [invoke, if_pos mutates, ensures_transaction, call, ensures_span, handler]
  refine (ScriptStep.ensures_foldlM invocation _ _ _).mono ?_ ?_
  · rintro reply inner ⟨-, ended⟩
    rw [ScriptStep.foldlM_fail] at ended
    cases ended
  · rintro raised inner ⟨worked, failed⟩
    rw [ScriptStep.foldlM_fail] at failed
    rw [Editor.leaveTransaction_session, Editor.leaveTransaction_buffer]
    exact ⟨(Except.error.inj failed).symm, worked.session,
      worked.buffer.rollback_outermost closed⟩

end EditorM

namespace Editor

/-- What a line comes to that invokes a command which fails. -/
theorem ensures_submit_script (awaits : editor.AwaitsCommand)
    (closed : editor.buffer.opened? = none) (invokes : editor.Invokes raw spec invocation)
    (mutates : spec.mutates = true)
    (handler : spec.handler = .scripted name (steps ++ [.fail fault])) {raised : Fault}
    (isRaised : raised = ScriptStep.raised invocation steps fault
      (editor.buffer.enter spec.letter.toString)) :
    (EditorM.submit raw).Ensures editor
      (fun output after => after.buffer = { editor.buffer with depth := 0 } ∧
        raised.isRoutine = true ∧ output.kind = .error ∧
        after.session.lastSearch? = editor.session.lastSearch?)
      (fun escaped after => after.buffer = { editor.buffer with depth := 0 } ∧
        raised.isRoutine = false ∧ escaped = raised ∧
        after.session.lastError = editor.session.lastError) := by
  refine EditorM.ensures_submit_dispatch awaits fun journal =>
    EditorM.ensures_dispatch_invokes invokes fun middle sought => ?_
  have buffer : middle.buffer = editor.buffer := sought.buffer
  refine (EditorM.ensures_invoke_script mutates handler (buffer.symm ▸ closed)).mono
    (fun _ _ impossible => impossible.elim) ?_
  rintro escaped inner ⟨same, standing, rolledBack⟩ journal
  rw [buffer, ← isRaised] at same
  rw [buffer] at rolledBack
  subst same
  constructor
  · rintro refusal rfl
    exact ⟨rolledBack, rfl, rfl, rfl⟩
  · intro unforeseen
    exact ⟨rolledBack, unforeseen, rfl, standing.lastError.trans sought.worked.session.lastError⟩

/-- **A command that fails has not changed the buffer, whatever its handler does.**  Take any editor
that awaits a command with no transaction open, with any commands, and a line that invokes a command
which is registered as changing the buffer.  Its handler takes any steps, any of which may fail, and
ends in any fault.  Then the document with its version, the current line, the note that there are
changes and the history are as before the line, and no transaction is open.  A refusal is answered
with an error, and the remembered search is the one from before; any other fault escapes as it is,
and the last error stays.

A handler that catches the fault of a step goes on as if the step had been left out. -/
theorem failed_script_rolled_back (awaits : editor.AwaitsCommand)
    (closed : editor.buffer.opened? = none) (invokes : editor.Invokes raw spec invocation)
    (mutates : spec.mutates = true)
    (handler : spec.handler = .scripted name (steps ++ [.fail fault])) :
    let raised := ScriptStep.raised invocation steps fault
      (editor.buffer.enter spec.letter.toString)
    ((editor.next raw).buffer.document = editor.buffer.document ∧
      (editor.next raw).buffer.current = editor.buffer.current ∧
      (editor.next raw).buffer.modified = editor.buffer.modified ∧
      (editor.next raw).buffer.history = editor.buffer.history ∧
      (editor.next raw).buffer.opened? = none) ∧
    (raised.isRoutine = true →
      (∃ output, editor.answer raw = .ok output ∧ output.kind = .error) ∧
      (editor.next raw).session.lastSearch? = editor.session.lastSearch?) ∧
    (raised.isRoutine = false →
      editor.answer raw = .error raised ∧
      (editor.next raw).session.lastError = editor.session.lastError) := by
  intro raised
  have ensured := ensures_submit_script awaits closed invokes mutates handler
    (show raised = _ from rfl)
  have same : ∀ buffer : Buffer, buffer = { editor.buffer with depth := 0 } →
      buffer.document = editor.buffer.document ∧ buffer.current = editor.buffer.current ∧
      buffer.modified = editor.buffer.modified ∧ buffer.history = editor.buffer.history ∧
      buffer.opened? = none := by
    rintro buffer rfl
    exact ⟨rfl, rfl, rfl, rfl, closed⟩
  cases answered : editor.answer raw with
  | ok output =>
      obtain ⟨buffer, routine, failed, search⟩ :=
        ensured.of_ok answered
      refine ⟨same _ buffer, fun _ => ⟨⟨output, rfl, failed⟩, search⟩, fun unforeseen => ?_⟩
      rw [routine] at unforeseen
      cases unforeseen
  | error escaped =>
      obtain ⟨buffer, unforeseen, rfl, lastError⟩ :=
        ensured.of_error answered
      refine ⟨same _ buffer, fun routine => ?_, fun _ => ⟨rfl, lastError⟩⟩
      rw [routine] at unforeseen
      cases unforeseen

/-- Two commands that delete, insert and set the remembered search.  One ends in a refusal; the
other is given up at a step that goes past the end of the buffer. -/
theorem failed_script_rolled_back_both :
    let refusing : CommandSpec :=
      { letter := 'x', mutates := true, telemetryName := "x"
        handler := .scripted "refuse"
          ([.delete, .setSearch (some "new")] ++ [.fail (.refusal .outOfRange)]) }
    let escaping : CommandSpec :=
      { letter := 'y', mutates := true, telemetryName := "y"
        handler := .scripted "escape"
          ([.deleteRange 1 2, .insert 1 ["new"], .setCurrent 9] ++ [.fail (.crash "end")]) }
    let editor : Editor := { ofText "one\ntwo\nthree" with
      registry := { specs := [refusing, escaping] } }
    editor.AwaitsCommand ∧
      editor.Invokes "1,2x" refusing
        { letter := 'x', args := "", start := 1, finish? := some 2, addressed := true } ∧
      (editor.next "1,2x").buffer.document = editor.buffer.document ∧
      (editor.next "1,2x").session.lastSearch? = none ∧
      editor.Invokes "y" escaping { letter := 'y', args := "", start := 1, finish? := some 1 } ∧
      editor.answer "y" = .error (.buffer .currentOutOfRange) ∧
      (editor.next "y").buffer.document = editor.buffer.document ∧
      (editor.next "y").buffer.modified = false := by
  intro refusing escaping editor
  have awaits : editor.AwaitsCommand := ⟨by decide +kernel, by decide +kernel⟩
  have closed : editor.buffer.opened? = none := by decide +kernel
  have one : editor.Invokes "1,2x" refusing
      { letter := 'x', args := "", start := 1, finish? := some 2, addressed := true } :=
    eq_ok_of_toOption (by decide +kernel)
  have two : editor.Invokes "y" escaping
      { letter := 'y', args := "", start := 1, finish? := some 1 } :=
    eq_ok_of_toOption (by decide +kernel)
  obtain ⟨⟨document, -⟩, refused, -⟩ := failed_script_rolled_back awaits closed one rfl rfl
  obtain ⟨⟨document', -, modified, -⟩, -, escaped⟩ :=
    failed_script_rolled_back awaits closed two rfl rfl
  have raised : ScriptStep.raised { letter := 'y', args := "", start := 1, finish? := some 1 }
      [.deleteRange 1 2, .insert 1 ["new"], .setCurrent 9] (.crash "end")
      (editor.buffer.enter escaping.letter.toString) = .buffer .currentOutOfRange := by
    decide +kernel
  rw [raised] at escaped
  refine ⟨awaits, one, document, (refused (by decide +kernel)).2.trans (by decide +kernel), two,
    (escaped rfl).1, document', modified.trans (by decide +kernel)⟩

end Editor

end Failing

end LineEditor

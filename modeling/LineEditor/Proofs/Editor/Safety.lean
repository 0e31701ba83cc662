import LineEditor.Proofs.Editor.Reachable

/-!
# Handlers only see valid ranges

Whatever the command table, a handler is only ever invoked by carrying out a
request that has been planned, and a planned request respects the contract of
its command.  The editor's own commands are written for that: in a reachable
editor no line hands the buffer a line number that is out of range
(`Editor.dispatched_invocations_fit`).
-/

set_option autoImplicit false

namespace LineEditor.Editor

variable {editor : Editor}

/-- No submitted line makes a sound editor misuse its buffer. -/
theorem Sound.answer_not_misuse (sound : editor.Sound) (raw : String) (cause : BufferCause) :
    editor.answer raw ≠ .error (.buffer cause) := by
  intro misused
  cases sound with
  | command ready bounded =>
      cases ended : editor.session.ended with
      | true =>
          rw [(submit_ended ended raw).1] at misused
          cases misused
      | false =>
          have step := ready.step ended raw
          rw [misused] at step
          cases step with
          | escaped steady session unforeseen notMisuse undo => exact notMisuse ⟨cause, rfl⟩
  | text ready registry fresh edited =>
      rw [(ready.step raw).1] at misused
      cases misused

/-- **Handlers only ever see valid ranges, and no line misuses the buffer.**  A second address token
occurs only behind a first one.  Dispatching a line is to plan it and to carry that out.  For every
command table and every buffer whose current line can be addressed, what is planned to be invoked is
given lines that can be addressed, in order, and no more and no fewer than the contract of its
command admits.  And with the editor's own commands, no submitted line ends in a fault of the
buffer.  No bracket around a handler answers such a fault in its place. -/
theorem dispatched_invocations_fit :
    (∀ text, (CommandLine.scan text).second ≠ "" → (CommandLine.scan text).first ≠ "") ∧
    (∀ line, EditorM.dispatch line = EditorM.plan line >>= EditorM.carryOut line) ∧
    (∀ editor : Editor,
      1 ≤ editor.buffer.current ∧ editor.buffer.current ≤ max editor.buffer.lineCount 1 →
      ∀ text,
        (∀ first? last?,
          ((EditorM.resolveLines (CommandLine.scan text)).runOn editor).1 = .ok (first?, last?) →
          last?.isSome → first?.isSome) ∧
        ∀ spec invocation,
          ((EditorM.plan (CommandLine.scan text)).runOn editor).1 = .ok (.invoke spec invocation) →
          ((EditorM.plan (CommandLine.scan text)).runOn editor).2.buffer = editor.buffer ∧
          (1 ≤ invocation.start ∧ invocation.start ≤ invocation.stop ∧
            invocation.stop ≤ max editor.buffer.lineCount 1) ∧
          (spec.arity = .noAddress → invocation.addressed = false) ∧
          (spec.arity = .oneAddress → invocation.finish? = none) ∧
          (spec.arity = .range → invocation.finish?.isSome)) ∧
    ∀ editor : Editor, editor.Reachable → ∀ raw cause,
      editor.answer raw ≠ .error (.buffer cause) := by
  refine ⟨fun text second => CommandLine.scan_first_of_second second, EditorM.dispatch_eq, ?_,
    fun editor reachable => reachable.sound.answer_not_misuse⟩
  intro editor placed text
  constructor
  · intro first? last? resolved
    exact ((EditorM.ensures_resolveLines text editor).result (Prod.ext resolved rfl)).2.led
  · intro spec invocation planned
    obtain ⟨sought, -, fits⟩ :=
      (EditorM.ensures_plan text placed).result (Prod.ext planned rfl)
    rw [sought.buffer] at fits
    exact ⟨sought.buffer, ⟨fits.first, fits.ordered, fits.last⟩, fits.noAddress, fits.oneAddress,
      fits.range⟩

/-- A command of a table of its own, invoked for the last two lines of a text. -/
theorem dispatched_invocations_fit_custom :
    let spec : CommandSpec :=
      { letter := 'x', handler := .scripted "echo" [.echo], telemetryName := "x" }
    let editor : Editor := { ofText "one\ntwo\nthree" with registry := { specs := [spec] } }
    let invocation : Invocation :=
      { letter := 'x', args := "now", start := 2, finish? := some 3, addressed := true }
    ((EditorM.plan (CommandLine.scan "/two/,$xnow")).runOn editor).1 =
        .ok (.invoke spec invocation) ∧
      (1 ≤ invocation.start ∧ invocation.start ≤ invocation.stop ∧
        invocation.stop ≤ max editor.buffer.lineCount 1) ∧
      invocation.finish?.isSome ∧
      (ofText "one\ntwo\nthree").Reachable ∧
      (ofText "one\ntwo\nthree").answer "2,3m0" ≠ .error (.buffer .lineOutOfRange) := by
  intro spec editor invocation
  have planned : ((EditorM.plan (CommandLine.scan "/two/,$xnow")).runOn editor).1 =
      .ok (.invoke spec invocation) :=
    eq_ok_of_toOption (by decide +kernel)
  have placed : 1 ≤ editor.buffer.current ∧
      editor.buffer.current ≤ max editor.buffer.lineCount 1 := by
    decide +kernel
  obtain ⟨-, lines, -, -, range⟩ :=
    (dispatched_invocations_fit.2.2.1 editor placed "/two/,$xnow").2 spec invocation planned
  have reachable := reachable_ofText "one\ntwo\nthree"
  exact ⟨planned, lines, range rfl, reachable,
    dispatched_invocations_fit.2.2.2 _ reachable "2,3m0" .lineOutOfRange⟩

end LineEditor.Editor

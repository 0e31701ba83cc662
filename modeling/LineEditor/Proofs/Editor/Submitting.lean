import LineEditor.Proofs.Editor.Concluding
import LineEditor.Proofs.Editor.Working

/-!
# From a submitted line to its command

What surrounds the dispatch of a command line is the same for all lines and all
command tables: spans of the log, the event that tells the host of the line, the
search that a refusal takes back, and the answer to a refusal.
`EditorM.ensures_submit_dispatch` takes all of it away, so that a statement about
a submitted line comes down to one about its dispatch.

Nothing is assumed of the buffer here.  What a line asks for is worked out from
the buffer, the session, the platform and the command table alone
(`EditorM.plan_alike`), so
`Editor.Invokes` can say that a line invokes a command before the line is
submitted.
-/

set_option autoImplicit false

namespace LineEditor

namespace Editor

/-- The next line is taken for a command. -/
structure AwaitsCommand (editor : Editor) : Prop where
  active : editor.activeMode? = some .command
  goesOn : editor.session.ended = false

/-- The editor of which the host has been told that a line was submitted. -/
def told (editor : Editor) (raw : String) (journal : Telemetry.Journal) : Editor :=
  { editor with
    events := editor.events.push (.commandSubmitted (withoutLineEnd raw))
    journal }

/-- The editor after a refusal has been answered: the search is the one from before the line, and
the refusal is recorded and reported. -/
def afterRefusal (before inner : Editor) (refusal : Refusal) (journal : Telemetry.Journal) :
    Editor :=
  { inner with
    session :=
      { inner.session with
        lastSearch? := before.session.lastSearch?
        lastError := refusal.message }
    events := inner.events.push (.commandRefused refusal)
    journal }

/-- The answer to a refusal. -/
def refusalOutput (editor : Editor) (refusal : Refusal) : Output :=
  { kind := .error, lines := editor.session.errorMarker refusal.message }

/-- A line invokes a command. -/
def Invokes (editor : Editor) (raw : String) (spec : CommandSpec) (invocation : Invocation) :
    Prop :=
  ((EditorM.plan (CommandLine.scan (withoutLineEnd raw))).runOn editor).1 =
    .ok (.invoke spec invocation)

end Editor

/-- What is shown for a reply that asks for nothing. -/
def Reply.shown (reply : Reply) : Output :=
  if reply.status = "error" then { kind := .error, lines := reply.output }
  else if reply.output.isEmpty then { kind := .none }
  else { kind := .text, lines := reply.output }

namespace EditorM

variable {editor : Editor}

/-! ## Planning, whatever the buffer -/

/-- What a line asks for goes with the command that is bound to its letter. -/
def Request.Bound (request : Request) (line : CommandLine) (editor : Editor) : Prop :=
  line.letter?.bind editor.registry.find? =
    match request with
    | .visit _ _ => none
    | .invoke spec _ => some spec

/-- Planning changes nothing but the remembered search.  For a command that reads no addresses, it
fails exactly if they are not accepted. -/
theorem ensures_plan_bound (text : String) (editor : Editor) :
    (plan (CommandLine.scan text)).Ensures editor
      (fun request after => editor.Sought after ∧
        request.Bound (CommandLine.scan text) editor ∧ editor.Accepts (CommandLine.scan text))
      (fun fault after => editor.Sought after ∧ fault.IsPlain ∧
        (editor.Ignores (CommandLine.scan text) → ¬editor.Accepts (CommandLine.scan text))) := by
  simp only [plan, ensures_bind]
  refine (ensures_resolveLines text editor).traced.mono ?_ ?_
  · rintro lines middle ⟨⟨sought, -⟩, run⟩
    have accepted : editor.Accepts (CommandLine.scan text) := ⟨lines, by rw [run]⟩
    simp only [bindRequest, ensures_bind, ensures_get, sought.registry]
    split
    · rename_i unbound
      rw [ensures_pure]
      exact ⟨sought, unbound, accepted⟩
    · rename_i spec found
      simp only [ensures_bind, ensures_lift, ensures_pure]
      refine ⟨fun invocation success => ⟨sought, found, accepted⟩, fun fault failed =>
        ⟨sought, CommandSpec.bindLines_plain _ _ _ _ _ fault failed, ?_⟩⟩
      rintro ⟨other, foundAgain, ignored⟩
      obtain rfl : spec = other := Option.some.inj (found.symm.trans foundAgain)
      obtain ⟨invocation, success⟩ := spec.bindLines_ignored ignored middle.buffer.current
        (CommandLine.scan text).args lines.1 lines.2
      rw [success] at failed
      cases failed
  · rintro fault after ⟨⟨sought, plain⟩, run⟩
    refine ⟨sought, plain, ?_⟩
    rintro - ⟨lines, accepted⟩
    rw [run] at accepted
    cases accepted

/-- Binding a command takes nothing into account but the buffer and the command table. -/
theorem bindRequest_alike (line : CommandLine) (lines : Option Nat × Option Nat) {one two : Editor}
    (buffer : two.buffer = one.buffer) (registry : two.registry = one.registry) :
    ((bindRequest line lines).runOn two).1 = ((bindRequest line lines).runOn one).1 := by
  simp only [bindRequest, runOn_bind, runOn_get]
  rw [buffer, registry]
  cases line.letter?.bind one.registry.find? with
  | none => rfl
  | some spec =>
      simp only [runOn_bind, runOn_lift]
      cases spec.bindLines one.buffer.current line.args lines.1 lines.2 with
      | error fault => rfl
      | ok invocation => rfl

/-- What a line asks for does not depend on what has been told to the outside. -/
theorem plan_alike (text : String) (one two : Editor) (buffer : two.buffer = one.buffer)
    (session : two.session = one.session) (platform : two.platform = one.platform)
    (registry : two.registry = one.registry) :
    ((plan (CommandLine.scan text)).runOn two).1 =
      ((plan (CommandLine.scan text)).runOn one).1 := by
  have sought : ∀ editor : Editor,
      editor.Sought ((resolveLines (CommandLine.scan text)).runOn editor).2 := fun editor =>
    Ensures.run (fun _ after => editor.Sought after) ((ensures_resolveLines text editor).mono
      (fun _ _ resolved => resolved.1) (fun _ _ failed => failed.1))
  have alike := resolveLines_alike (CommandLine.scan text) buffer session platform
  have tables := (sought two).registry.trans (registry.trans (sought one).registry.symm)
  simp only [plan, runOn_bind]
  revert alike tables
  generalize (resolveLines (CommandLine.scan text)).runOn one = runOne
  generalize (resolveLines (CommandLine.scan text)).runOn two = runTwo
  obtain ⟨outcome, one⟩ := runOne
  obtain ⟨same, two⟩ := runTwo
  rintro ⟨rfl, buffer, -⟩ tables
  cases same with
  | error fault => rfl
  | ok lines => exact bindRequest_alike _ lines buffer tables

/-- A line that invokes a command is dispatched to it. -/
theorem ensures_dispatch_invokes {raw : String} {spec : CommandSpec} {invocation : Invocation}
    (invokes : editor.Invokes raw spec invocation) {journal : Telemetry.Journal}
    {onResult : Reply → Editor → Prop} {onFault : Fault → Editor → Prop}
    (invoked : ∀ middle, (editor.told raw journal).Sought middle →
      (invoke spec invocation).Ensures middle onResult onFault) :
    (dispatch (CommandLine.scan (withoutLineEnd raw))).Ensures (editor.told raw journal) onResult
      onFault := by
  have planned : ((plan (CommandLine.scan (withoutLineEnd raw))).runOn
      (editor.told raw journal)).1 = .ok (.invoke spec invocation) := by
    rw [plan_alike (withoutLineEnd raw) editor (editor.told raw journal) rfl rfl rfl rfl]
    exact invokes
  rw [dispatch_eq, ensures_bind]
  refine (ensures_plan_bound (withoutLineEnd raw) (editor.told raw journal)).traced.mono ?_ ?_
  · rintro request middle ⟨⟨sought, -⟩, run⟩
    rw [run] at planned
    cases planned
    exact invoked middle sought
  · rintro fault middle ⟨-, run⟩
    rw [run] at planned
    cases planned

/-! ## Around the dispatch -/

/-- Nothing changes after a reply that asks for nothing. -/
theorem ensures_conclude_shown {reply : Reply} (stays : reply.switchTo? = none)
    (goesOn : reply.ended = false) {onOutput : Output → Editor → Prop}
    {onFault : Fault → Editor → Prop} :
    (conclude reply).Ensures editor onOutput onFault ↔ onOutput reply.shown editor := by
  simp only [conclude, stays, goesOn, Option.filter_none, Bool.false_eq_true, if_false, Reply.shown]
  split
  · rw [ensures_pure]
  · split
    · rw [ensures_pure]
    · rw [ensures_pure]

/-- A refusal is answered, and any other fault escapes. -/
theorem Ensures.answered {work : EditorM Reply} {onReply : Reply → Editor → Prop}
    {onFault : Fault → Editor → Prop}
    (ensured : work.Ensures editor onReply fun fault inner =>
      (∀ refusal, fault = .refusal refusal →
        (answerRefusal refusal).Ensures inner onReply onFault) ∧
      (fault.isRoutine = false → onFault fault inner)) :
    (answeringRefusals work).Ensures editor onReply onFault := by
  rw [ensures_answeringRefusals]
  refine ensured.mono (fun _ _ replied => replied) ?_
  rintro fault inner ⟨refused, escapes⟩
  cases fault with
  | refusal refusal => exact refused refusal rfl
  | _ => exact escapes rfl

/-- The answer to a refusal is concluded by nothing but what it shows. -/
theorem ensures_refusalOutput (refusal : Refusal) {onOutput : Output → Editor → Prop}
    {onFault : Fault → Editor → Prop}
    (answered : ∀ journal, onOutput (editor.refusalOutput refusal)
      { editor with
        session := { editor.session with lastError := refusal.message }
        events := editor.events.push (.commandRefused refusal)
        journal }) :
    (answerRefusal refusal).Ensures editor
      (fun reply middle => (conclude reply).Ensures middle onOutput onFault) onFault := by
  simp only [answerRefusal, ensures_bind, ensures_modifySession, ensures_emit, ensures_modify,
    ensures_get, ensures_pure]
  rw [ensures_conclude_shown rfl rfl]
  obtain ⟨journal, told⟩ := (editor.updateSession fun session =>
    { session with lastError := refusal.message }).emit_eq (.commandRefused refusal)
  rw [told]
  exact answered _

/-- **A submitted command line comes down to its dispatch.**  What the line does is what its
dispatch does and what concludes the reply; a refusal is answered, and any other fault escapes. -/
theorem ensures_submit_dispatch {raw : String} (awaits : editor.AwaitsCommand)
    {onOutput : Output → Editor → Prop} {onFault : Fault → Editor → Prop}
    (dispatched : ∀ journal,
      (dispatch (CommandLine.scan (withoutLineEnd raw))).Ensures (editor.told raw journal)
        (fun reply inner => ∀ journal, (conclude reply).Ensures { inner with journal } onOutput
          onFault)
        (fun fault inner => ∀ journal,
          (∀ refusal, fault = .refusal refusal →
            onOutput (inner.refusalOutput refusal) (editor.afterRefusal inner refusal journal)) ∧
          (fault.isRoutine = false → onFault fault { inner with journal }))) :
    (submit raw).Ensures editor onOutput onFault := by
  rw [ensures_submit awaits.goesOn awaits.active]
  refine Ensures.answered ?_
  rw [ensures_span, handleLine, handleCommand, ensures_bind, ensures_emit, ensures_span,
    ensures_restoringSearch]
  obtain ⟨journal, told⟩ :=
    ({ editor with journal := (editor.journal.enter (modeSpan .command)).2 } : Editor).emit_eq
      (.commandSubmitted (withoutLineEnd raw))
  rw [told]
  refine (dispatched _).mono (fun reply inner concluded => concluded _) ?_
  intro fault inner failed
  constructor
  · rintro refusal rfl
    exact ensures_refusalOutput refusal fun journal => (failed journal).1 refusal rfl
  · intro unforeseen
    simp only [unforeseen, Bool.false_eq_true, if_false]
    exact (failed _).2 unforeseen

/-! ## What a planned command comes to -/

/-- What is to be ensured of a planned command, so that its line comes to what is wanted. -/
def Settles (wanted : Except Fault Output → Editor → Prop) (before : Editor)
    (work : EditorM Reply) (middle : Editor) : Prop :=
  work.Ensures middle
    (fun reply inner => ∀ journal, (conclude reply).Ensures { inner with journal }
      (fun output after => wanted (.ok output) after)
      (fun fault after => wanted (.error fault) after))
    (fun fault inner => ∀ journal,
      (∀ refusal, fault = .refusal refusal →
        wanted (.ok (inner.refusalOutput refusal)) (before.afterRefusal inner refusal journal)) ∧
      (fault.isRoutine = false → wanted (.error fault) { inner with journal }))

/-- The log around a command does not matter. -/
theorem Settles.span {wanted : Except Fault Output → Editor → Prop} {work : EditorM Reply}
    {middle : Editor} {request : Telemetry.SpanRequest}
    (settles : Settles wanted editor work
      { middle with journal := (middle.journal.enter request).2 }) :
    Settles wanted editor (EditorM.span request work) middle := by
  rw [Settles, ensures_span]
  exact settles

end EditorM

end LineEditor

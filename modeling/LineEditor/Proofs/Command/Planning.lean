import LineEditor.Proofs.Command.Contract
import LineEditor.Proofs.Command.Tokens
import LineEditor.Proofs.Editor.Ensures

/-!
# Planning and carrying out

A command line is dispatched in two halves.  `EditorM.plan` resolves the
addresses, checks them and binds the command, and `EditorM.carryOut` does what
was planned; `EditorM.dispatch_eq` puts the halves together.

The first half is where all checks are made.  It changes nothing but the
remembered search, it never misuses the buffer, and whatever it hands to a
handler respects the contract of the command (`EditorM.ensures_plan`).
-/

set_option autoImplicit false

namespace LineEditor

namespace Editor

/-- Nothing but the remembered search and the log has changed. -/
def Sought (before after : Editor) : Prop :=
  ∃ lastSearch? journal,
    after = { before with session := { before.session with lastSearch? }, journal }

theorem Sought.refl (editor : Editor) : editor.Sought editor :=
  ⟨editor.session.lastSearch?, editor.journal, rfl⟩

/-- The log may be told anything. -/
theorem Sought.logged (editor : Editor) (journal : Telemetry.Journal) :
    editor.Sought { editor with journal } :=
  ⟨editor.session.lastSearch?, journal, rfl⟩

theorem Sought.trans {before middle after : Editor} (earlier : before.Sought middle)
    (later : middle.Sought after) : before.Sought after := by
  obtain ⟨_, _, rfl⟩ := earlier
  obtain ⟨lastSearch?, journal, rfl⟩ := later
  exact ⟨lastSearch?, journal, rfl⟩

theorem Sought.buffer {before after : Editor} (sought : before.Sought after) :
    after.buffer = before.buffer := by
  obtain ⟨_, _, rfl⟩ := sought
  rfl

theorem Sought.registry {before after : Editor} (sought : before.Sought after) :
    after.registry = before.registry := by
  obtain ⟨_, _, rfl⟩ := sought
  rfl

end Editor

namespace EditorM

/-- What a line asks for: to go to a line, or to invoke a command. -/
inductive Request where
  | visit (first? last? : Option Nat)
  | invoke (spec : CommandSpec) (invocation : Invocation)
  deriving DecidableEq

/-- Resolves and checks the addresses of a line. -/
def resolveLines (line : CommandLine) : EditorM (Option Nat × Option Nat) := do
  let start? ← resolveToken line.first
  let finish? ← resolveToken line.second
  let editor ← get
  (editor.buffer.checkLines start? finish? : Except Fault (Option Nat × Option Nat))

/-- Two runs end alike, as far as the outcome, the buffer, the session and the platform are
concerned. -/
structure Alike {α : Type} (one two : Except Fault α × Editor) : Prop where
  outcome : two.1 = one.1
  buffer : two.2.buffer = one.2.buffer
  session : two.2.session = one.2.session
  platform : two.2.platform = one.2.platform

theorem Alike.bind {α β : Type} {first : EditorM β} {next : β → EditorM α} {one two : Editor}
    (heads : Alike (first.runOn one) (first.runOn two))
    (rests : ∀ result (one two : Editor), two.buffer = one.buffer → two.session = one.session →
      two.platform = one.platform → Alike ((next result).runOn one) ((next result).runOn two)) :
    Alike ((first >>= next).runOn one) ((first >>= next).runOn two) := by
  simp only [runOn_bind]
  revert heads
  generalize first.runOn one = runOne
  generalize first.runOn two = runTwo
  obtain ⟨outcome, one⟩ := runOne
  obtain ⟨same, two⟩ := runTwo
  rintro ⟨heads, buffer, session, platform⟩
  obtain rfl : same = outcome := heads
  cases same with
  | ok result => exact rests result one two buffer session platform
  | error fault => exact ⟨rfl, buffer, session, platform⟩

/-- Resolving the addresses of a line takes nothing into account but the buffer, the session and the
platform. -/
theorem resolveToken_alike (token : String) {one two : Editor} (buffer : two.buffer = one.buffer)
    (session : two.session = one.session) (platform : two.platform = one.platform) :
    Alike ((resolveToken token).runOn one) ((resolveToken token).runOn two) := by
  rw [resolveToken]
  split
  · exact ⟨rfl, buffer, session, platform⟩
  · have run : ∀ editor : Editor, (resolveAddress token).runOn editor =
        ((Address.resolve editor.platform.engine editor.buffer editor.session.marks
            editor.session.lastSearch? token).1,
          editor.updateSession fun session =>
            { session with
              lastSearch? := (Address.resolve editor.platform.engine editor.buffer
                editor.session.marks editor.session.lastSearch? token).2 }) := fun _ => rfl
    refine Alike.bind ⟨?_, ?_, ?_, platform⟩ fun line one two buffer session platform =>
      ⟨rfl, buffer, session, platform⟩
    · simp only [run, buffer, session, platform]
    · simp only [run, Editor.updateSession_buffer, buffer]
    · simp only [run, Editor.updateSession_session, buffer, session, platform]

theorem resolveLines_alike (line : CommandLine) {one two : Editor}
    (buffer : two.buffer = one.buffer) (session : two.session = one.session)
    (platform : two.platform = one.platform) :
    Alike ((resolveLines line).runOn one) ((resolveLines line).runOn two) := by
  refine (resolveToken_alike line.first buffer session platform).bind
    fun start? one two buffer session platform =>
      (resolveToken_alike line.second buffer session platform).bind
        fun finish? one two buffer session platform => ?_
  exact ⟨congrArg (fun buffer : Buffer => buffer.checkLines start? finish?) buffer, buffer, session,
    platform⟩

/-- Looks the command of a line up and binds it to the checked lines. -/
def bindRequest (line : CommandLine) (lines : Option Nat × Option Nat) : EditorM Request := do
  let editor ← get
  match line.letter?.bind editor.registry.find? with
  | none => return .visit lines.1 lines.2
  | some spec =>
    let invocation ←
      (spec.bindLines editor.buffer.current line.args lines.1 lines.2 : Except Fault Invocation)
    return .invoke spec invocation

/-- What a line asks for. -/
def plan (line : CommandLine) : EditorM Request := do
  bindRequest line (← resolveLines line)

/-- Does what was planned. -/
def carryOut (line : CommandLine) : Request → EditorM Reply
  | .visit first? last? => navigate line first? last?
  | .invoke spec invocation => invoke spec invocation

/-- Dispatching a line is to plan what it asks for and to carry that out. -/
theorem dispatch_eq (line : CommandLine) : dispatch line = plan line >>= carryOut line := by
  simp only [dispatch, plan, resolveLines, bindRequest, bind_assoc]
  refine bind_congr fun start? => bind_congr fun finish? => ?_
  funext editor
  change EditorM.runOn _ editor = EditorM.runOn _ editor
  simp only [runOn_bind, runOn_get, runOn_lift]
  cases editor.buffer.checkLines start? finish? with
  | error fault => rfl
  | ok lines =>
      cases found : line.letter?.bind editor.registry.find? with
      | none => simp only [found, runOn_pure, carryOut]
      | some spec =>
          simp only [found, runOn_bind, runOn_lift]
          cases spec.bindLines editor.buffer.current line.args lines.1 lines.2 <;> rfl

end EditorM

namespace Editor

/-- The addresses of a line can be resolved, and the lines they mean can be addressed. -/
def Accepts (editor : Editor) (line : CommandLine) : Prop :=
  ∃ lines, ((EditorM.resolveLines line).runOn editor).1 = .ok lines

/-- A line is bound to a command that reads no addresses. -/
def Ignores (editor : Editor) (line : CommandLine) : Prop :=
  ∃ spec, line.letter?.bind editor.registry.find? = some spec ∧ spec.arity = .ignored

theorem accepts_congr {one two : Editor} (line : CommandLine) (buffer : two.buffer = one.buffer)
    (session : two.session = one.session) (platform : two.platform = one.platform) :
    two.Accepts line ↔ one.Accepts line := by
  simp only [Accepts, (EditorM.resolveLines_alike line buffer session platform).outcome]

/-- A line without addresses is accepted. -/
theorem accepts_unaddressed (editor : Editor) {line : CommandLine} (first : line.first = "")
    (second : line.second = "") : editor.Accepts line := by
  have none : ∀ editor : Editor,
      (EditorM.resolveToken "").runOn editor = (.ok Option.none, editor) := fun _ => rfl
  refine ⟨(Option.none, Option.none), ?_⟩
  simp only [EditorM.resolveLines, first, second, EditorM.runOn_bind, none]
  rfl

end Editor

namespace EditorM

/-! ## What planning ensures -/

theorem ensures_resolveAddress (token : String) (editor : Editor) :
    (resolveAddress token).Ensures editor (fun _ after => editor.Sought after)
      (fun fault after => editor.Sought after ∧ fault.IsPlain) := by
  simp only [resolveAddress, ensures_bind, ensures_get, ensures_modifySession, ensures_lift]
  exact ⟨fun _ _ => ⟨_, _, rfl⟩,
    fun fault failed => ⟨⟨_, _, rfl⟩, Address.plain_resolve _ _ _ _ _ fault failed⟩⟩

theorem ensures_resolveToken (token : String) (editor : Editor) :
    (resolveToken token).Ensures editor
      (fun line? after => editor.Sought after ∧ (line?.isSome ↔ token ≠ ""))
      (fun fault after => editor.Sought after ∧ fault.IsPlain) := by
  rw [resolveToken]
  split
  · rename_i empty
    have : token = "" := by simpa using empty
    rw [ensures_pure]
    exact ⟨.refl editor, by simp [this]⟩
  · rename_i present
    have : token ≠ "" := by simpa using present
    simp only [ensures_bind, ensures_pure]
    exact (ensures_resolveAddress token editor).mono
      (fun _ _ sought => ⟨sought, by simp [this]⟩) (fun _ _ failed => failed)

/-- Resolving the addresses of a line gives checked lines. -/
theorem ensures_resolveLines (text : String) (editor : Editor) :
    (resolveLines (CommandLine.scan text)).Ensures editor
      (fun lines after => editor.Sought after ∧
        CheckedLines editor.buffer.lastLine lines.1 lines.2)
      (fun fault after => editor.Sought after ∧ fault.IsPlain) := by
  simp only [resolveLines, ensures_bind, ensures_get, ensures_lift]
  refine (ensures_resolveToken _ editor).mono ?_ (fun _ _ failed => failed)
  rintro start? one ⟨soughtOne, first⟩
  refine (ensures_resolveToken _ one).mono ?_
    (fun _ _ failed => ⟨soughtOne.trans failed.1, failed.2⟩)
  rintro finish? two ⟨soughtTwo, second⟩
  have sought := soughtOne.trans soughtTwo
  rw [sought.buffer]
  refine ⟨fun lines success => ⟨sought, ?_⟩,
    fun fault failed => ⟨sought, Buffer.checkLines_plain _ _ _ fault failed⟩⟩
  exact Buffer.checkLines_checked
    (fun some => first.mpr (CommandLine.scan_first_of_second (second.mp some))) success

/-- A request that a line may make of an editor: without a command, the lines to go to are checked,
and an invocation respects the contract of the command that is bound to the letter. -/
def Request.Fits (request : Request) (line : CommandLine) (editor : Editor) : Prop :=
  match request with
  | .visit first? last? =>
    line.letter?.bind editor.registry.find? = none ∧
      CheckedLines editor.buffer.lastLine first? last?
  | .invoke spec invocation =>
    line.letter?.bind editor.registry.find? = some spec ∧
      invocation.Fits spec.arity editor.buffer.lastLine

theorem ensures_bindRequest (line : CommandLine) {editor : Editor} (placed : editor.buffer.Placed)
    {lines : Option Nat × Option Nat}
    (checked : CheckedLines editor.buffer.lastLine lines.1 lines.2) :
    (bindRequest line lines).Ensures editor
      (fun request after => after = editor ∧ request.Fits line editor)
      (fun fault after => after = editor ∧ fault.IsPlain ∧ ¬editor.Ignores line) := by
  simp only [bindRequest, ensures_bind, ensures_get]
  split
  · rename_i unbound
    rw [ensures_pure]
    exact ⟨rfl, unbound, checked⟩
  · rename_i spec found
    simp only [ensures_bind, ensures_lift, ensures_pure]
    refine ⟨fun invocation success =>
        ⟨trivial, found, CommandSpec.bindLines_fits placed checked success⟩,
      fun fault failed => ⟨trivial, CommandSpec.bindLines_plain _ _ _ _ _ fault failed, ?_⟩⟩
    rintro ⟨other, foundAgain, ignored⟩
    obtain rfl : spec = other := Option.some.inj (found.symm.trans foundAgain)
    obtain ⟨invocation, success⟩ := spec.bindLines_ignored ignored editor.buffer.current line.args
      lines.1 lines.2
    rw [success] at failed
    cases failed

/-- **Planning hands out only what respects the contract of a command**, and it changes nothing but
the remembered search.  For a command that reads no addresses, it fails only if they are not
accepted. -/
theorem ensures_plan (text : String) {editor : Editor} (placed : editor.buffer.Placed) :
    (plan (CommandLine.scan text)).Ensures editor
      (fun request after => editor.Sought after ∧ request.Fits (CommandLine.scan text) after)
      (fun fault after => editor.Sought after ∧ fault.IsPlain ∧
        (editor.Ignores (CommandLine.scan text) → ¬editor.Accepts (CommandLine.scan text))) := by
  simp only [plan, ensures_bind]
  refine (ensures_resolveLines text editor).traced.mono ?_ ?_
  · rintro lines middle ⟨⟨sought, checked⟩, -⟩
    have ignores : editor.Ignores (CommandLine.scan text) ↔
        middle.Ignores (CommandLine.scan text) := by
      simp only [Editor.Ignores, sought.registry]
    rw [← sought.buffer] at placed checked
    refine (ensures_bindRequest (CommandLine.scan text) placed checked).mono ?_ ?_
    · rintro request after ⟨same, fits⟩
      subst same
      exact ⟨sought, fits⟩
    · rintro fault after ⟨same, plain, heeds⟩
      subst same
      exact ⟨sought, plain, fun ignored => absurd (ignores.mp ignored) heeds⟩
  · rintro fault after ⟨⟨sought, plain⟩, run⟩
    refine ⟨sought, plain, ?_⟩
    rintro - ⟨lines, accepted⟩
    rw [run] at accepted
    cases accepted

end EditorM

end LineEditor

import LineEditor.Proofs.Editor.Commands

/-!
# Concluding a line

What follows after a line has been handled.  A refusal is answered with an error
(`EditorM.ensures_answerRefusal`), and then what the reply asks for is carried
out: nothing, the end of the session, or a switch between the two modes.

With both modes registered a switch always succeeds.  The one to the text mode
leaves the buffer alone (`EditorM.ensures_conclude_text`), and the one back
commits the transaction that was kept open (`EditorM.ensures_conclude_command`).
-/

set_option autoImplicit false

namespace LineEditor

namespace Editor

/-- What no line changes. -/
structure Kept (before after : Editor) : Prop where
  config : after.config = before.config
  platform : after.platform = before.platform
  registry : after.registry = before.registry
  modes : after.modes = before.modes
  hosted : after.hosted = before.hosted

theorem Kept.refl (editor : Editor) : editor.Kept editor :=
  ⟨rfl, rfl, rfl, rfl, rfl⟩

theorem Kept.trans {before middle after : Editor} (earlier : before.Kept middle)
    (later : middle.Kept after) : before.Kept after where
  config := later.config.trans earlier.config
  platform := later.platform.trans earlier.platform
  registry := later.registry.trans earlier.registry
  modes := later.modes.trans earlier.modes
  hosted := later.hosted.trans earlier.hosted

/-- Events and the state of text entry are not among what is kept. -/
theorem Kept.inside (editor : Editor) (buffer : Buffer) (session : Session) (disk : Disk)
    (journal : Telemetry.Journal) (events : Array Event) (pending : Bool) (entered : Nat) :
    editor.Kept { editor with buffer, session, disk, journal, events, pending, entered } :=
  ⟨rfl, rfl, rfl, rfl, rfl⟩

theorem Framed.kept {before after : Editor} (framed : before.Framed after) : before.Kept after :=
  ⟨framed.config, framed.platform, framed.registry, framed.modes, framed.hosted⟩

@[simp] theorem emit_events (editor : Editor) (event : Event) :
    (editor.emit event).events = editor.events.push event := by
  obtain ⟨_, told⟩ := editor.emit_eq event
  rw [told]

/-- The buffer is the same, and so is whether its transaction is kept open. -/
structure Steady (before after : Editor) : Prop where
  kept : before.Kept after
  buffer : after.buffer = before.buffer
  pending : after.pending = before.pending

theorem Steady.refl (editor : Editor) : editor.Steady editor :=
  ⟨.refl editor, rfl, rfl⟩

theorem Steady.trans {before middle after : Editor} (earlier : before.Steady middle)
    (later : middle.Steady after) : before.Steady after where
  kept := earlier.kept.trans later.kept
  buffer := later.buffer.trans earlier.buffer
  pending := later.pending.trans earlier.pending

/-- The session, the log and the events may differ. -/
theorem Steady.inside (editor : Editor) (session : Session) (disk : Disk)
    (journal : Telemetry.Journal) (events : Array Event) (entered : Nat) :
    editor.Steady { editor with session, disk, journal, events, entered } :=
  ⟨.inside .., rfl, rfl⟩

theorem emit_steady (editor : Editor) (event : Event) : editor.Steady (editor.emit event) := by
  obtain ⟨_, told⟩ := editor.emit_eq event
  rw [told]
  exact .inside ..

/-- Both modes are registered, each under its own name. -/
def BothModes (editor : Editor) : Prop :=
  editor.modes = { command? := some .command, text? := some .text }

theorem BothModes.active_command {editor : Editor} (modes : editor.BothModes)
    (mode : editor.session.mode = .command) : editor.activeMode? = some .command := by
  rw [activeMode?, modes, mode]
  rfl

theorem BothModes.active_text {editor : Editor} (modes : editor.BothModes)
    (mode : editor.session.mode = .text) : editor.activeMode? = some .text := by
  rw [activeMode?, modes, mode]
  rfl

end Editor

namespace EditorM

variable {editor : Editor}

/-! ## Refusals -/

/-- A refusal is recorded and reported, and then answered with an error. -/
theorem ensures_answerRefusal (refusal : Refusal) :
    (answerRefusal refusal).Ensures editor
      (fun reply after =>
        (reply.status = "error" ∧ reply.switchTo? = none ∧ reply.ended = false) ∧
        editor.Steady after ∧
        after.session = { editor.session with lastError := refusal.message } ∧
        after.events = editor.events.push (.commandRefused refusal))
      (fun _ _ => False) := by
  simp only [answerRefusal, ensures_bind, ensures_modifySession, ensures_emit, ensures_modify,
    ensures_get, ensures_pure]
  have told := (editor.updateSession fun session =>
    { session with lastError := refusal.message }).emit_eq (.commandRefused refusal)
  obtain ⟨journal, told⟩ := told
  rw [told]
  exact ⟨⟨trivial, trivial, trivial⟩, .inside .., rfl, rfl⟩

/-! ## Going on in the same mode -/

/-- An error is concluded by nothing but the answer. -/
theorem ensures_conclude_error {reply : Reply} (failed : reply.status = "error")
    (stays : reply.switchTo? = none) (goesOn : reply.ended = false) :
    (conclude reply).Ensures editor (fun output after => output.kind = .error ∧ after = editor)
      (fun _ _ => False) := by
  simp only [conclude, stays, goesOn, failed, Option.filter_none, ensures_bind, ensures_ite,
    ensures_pure]
  simp

/-- A reply that asks for nothing is concluded by no answer. -/
theorem ensures_conclude_silent {reply : Reply} (succeeded : reply.status ≠ "error")
    (stays : reply.switchTo? = none) (goesOn : reply.ended = false) (silent : reply.output = []) :
    (conclude reply).Ensures editor
      (fun output after => output = { kind := .none } ∧ after = editor) (fun _ _ => False) := by
  simp only [conclude, stays, goesOn, silent, Option.filter_none, ensures_bind, ensures_ite,
    ensures_pure]
  simp [succeeded]

/-- A reply that asks for no other mode is concluded by an answer that is no error, and the session
is ended if the reply says so. -/
theorem ensures_conclude_stays {reply : Reply} (succeeded : reply.status ≠ "error")
    (stays : reply.switchTo? = none) :
    (conclude reply).Ensures editor
      (fun output after =>
        output.kind ≠ .error ∧ editor.Steady after ∧
        after.session = { editor.session with ended := editor.session.ended || reply.ended })
      (fun _ _ => False) := by
  simp only [conclude, stays, Option.filter_none]
  cases ended : reply.ended with
  | true =>
      simp only [if_pos, endSession, ensures_bind, ensures_modifySession, ensures_emit,
        ensures_modify, ensures_pure]
      obtain ⟨journal, told⟩ := (editor.updateSession fun session =>
        { session with ended := true }).emit_eq .sessionEnded
      rw [told]
      exact ⟨by decide, .inside .., by simp⟩
  | false =>
      simp only [Bool.false_eq_true, if_false, if_neg succeeded, ensures_ite, ensures_pure]
      exact ⟨fun _ => ⟨by decide, .refl editor, by simp⟩,
        fun _ => ⟨by decide, .refl editor, by simp⟩⟩

/-! ## Switching -/

/-- Switching to another mode leaves the one and enters the other. -/
theorem ensures_switchMode {target : Mode} {previous next : ModeClass}
    (registered : editor.modes.get? target = some next)
    (active : editor.activeMode? = some previous) (other : target ≠ editor.session.mode)
    {onResult : Unit → Editor → Prop} {onFault : Fault → Editor → Prop} :
    (switchMode target.name).Ensures editor onResult onFault ↔
      (leaveMode previous).Ensures editor
        (fun _ left => (enterMode next).Ensures
          (left.updateSession fun session => { session with mode := target })
          (fun _ entered => onResult ()
            (entered.updateJournal (·.event "mode.switch" [("mode", target.name)])))
          onFault)
        onFault := by
  have named : Mode.ofName target.name = .ok target := by cases target <;> rfl
  have hit : ∀ property : Mode → Prop,
      (∀ mode, (.ok target : Except Fault Mode) = .ok mode → property mode) ↔ property target := by
    simp
  simp only [switchMode, named, ensures_bind, ensures_lift, hit, ensures_get, registered,
    ensures_ite, active, ensures_modifySession, ensures_modify, ensures_pure]
  simp [other]

/-- A silent reply that asks for another mode is concluded by the switch. -/
theorem ensures_conclude_switch {reply : Reply} {target : Mode}
    (switch : reply.switchTo? = some target.name) (succeeded : reply.status ≠ "error")
    (goesOn : reply.ended = false) (silent : reply.output = [])
    {onOutput : Output → Editor → Prop} {onFault : Fault → Editor → Prop} :
    (conclude reply).Ensures editor onOutput onFault ↔
      (switchMode target.name).Ensures editor (fun _ after => onOutput { kind := .none } after)
        onFault := by
  have named : (some target.name).filter (· != "") = some target.name := by cases target <;> decide
  simp only [conclude, switch, named, goesOn, silent, ensures_bind, ensures_ite, ensures_pure]
  simp [succeeded]

/-- Opening text entry switches to the text mode. -/
theorem ensures_conclude_text (modes : editor.BothModes) (awaiting : editor.session.mode = .command)
    {reply : Reply} (succeeded : reply.status ≠ "error") (goesOn : reply.ended = false)
    (switch : reply.switchTo? = some Mode.text.name) (silent : reply.output = []) :
    (conclude reply).Ensures editor
      (fun output after =>
        output = { kind := .none } ∧ editor.Steady after ∧
        after.session = { editor.session with mode := .text } ∧
        after.events = editor.events.push (.textBegun editor.session.insertAfter) ∧
        after.entered = 0)
      (fun _ _ => False) := by
  have registered : editor.modes.get? .text = some .text := by rw [modes]; rfl
  have active := modes.active_command awaiting
  rw [ensures_conclude_switch switch succeeded goesOn silent,
    ensures_switchMode registered active (by simp [awaiting])]
  simp only [leaveMode, enterMode, beginText, ensures_bind, ensures_modify, ensures_get,
    ensures_emit, ensures_pure]
  obtain ⟨journal, told⟩ := ({ editor with
    session := { editor.session with mode := .text }
    entered := 0 } : Editor).emit_eq (.textBegun editor.session.insertAfter)
  refine ⟨trivial, ?_⟩
  rw [show (editor.updateSession fun session => { session with mode := .text }) =
    { editor with session := { editor.session with mode := .text } } from rfl, told]
  exact ⟨.inside editor .., rfl, rfl, rfl⟩

/-- The end of a text commits the transaction that was kept open, and switches to the command
mode. -/
theorem ensures_conclude_command (modes : editor.BothModes) (entering : editor.session.mode = .text)
    (pending : editor.pending = true) {reply : Reply} (succeeded : reply.status ≠ "error")
    (goesOn : reply.ended = false) (switch : reply.switchTo? = some Mode.command.name)
    (silent : reply.output = []) :
    (conclude reply).Ensures editor
      (fun output after =>
        output = { kind := .none } ∧ editor.Kept after ∧ after.buffer = editor.buffer.commit ∧
        after.pending = false ∧ after.session = { editor.session with mode := .command } ∧
        after.events = editor.events.push (.textEnded editor.entered))
      (fun _ _ => False) := by
  have registered : editor.modes.get? .command = some .command := by rw [modes]; rfl
  have active := modes.active_text entering
  obtain ⟨change, left⟩ := ({ editor with pending := false } : Editor).leaveTransaction_eq true
  rw [ensures_conclude_switch switch succeeded goesOn silent,
    ensures_switchMode registered active (by simp [entering])]
  simp only [leaveMode, enterMode, endText, closePending, pending, if_true, left, ensures_bind,
    ensures_modify, ensures_get, ensures_emit, ensures_pure]
  refine ⟨trivial, ?_, ?_, ?_, ?_, ?_⟩
  · exact ((Editor.Kept.inside editor ..).trans (Editor.emit_steady _ _).kept).trans (.inside ..)
  · exact (Editor.emit_steady _ _).buffer
  · exact (Editor.emit_steady _ _).pending
  · rw [Editor.updateJournal_session, Editor.updateSession_session, Editor.emit_session]
    rfl
  · exact Editor.emit_events _ _

/-! ## Submission -/

/-- Until the session ends, a line is handled by the active mode, and then it is concluded. -/
theorem ensures_submit {raw : String} {modeClass : ModeClass}
    (goesOn : editor.session.ended = false) (active : editor.activeMode? = some modeClass)
    {onOutput : Output → Editor → Prop} {onFault : Fault → Editor → Prop} :
    (submit raw).Ensures editor onOutput onFault ↔
      (answeringRefusals (span (modeSpan modeClass)
          (handleLine modeClass (withoutLineEnd raw)))).Ensures editor
        (fun reply middle => (conclude reply).Ensures middle onOutput onFault) onFault := by
  simp only [submit, ensures_bind, ensures_get, goesOn, Bool.false_eq_true, if_false, active]

end EditorM

end LineEditor

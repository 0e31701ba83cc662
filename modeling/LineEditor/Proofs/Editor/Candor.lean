import LineEditor.Proofs.Editor.Concluding
import LineEditor.Proofs.Editor.Working

/-!
# Candid steps

A step is candid if no change of the document goes unnoted and quitting is where
it was (`Editor.Candid`).  What keeps to its work is candid, also inside of a
transaction, be it committed, kept open or rolled back
(`EditorM.Keeps.transaction`).  The rest is undo, a line of a text, and all that
concludes a line which does not end the session (`EditorM.keeps_conclude`).
-/

set_option autoImplicit false

namespace LineEditor

namespace Buffer

variable {before after : Buffer}

theorem noted_enter (buffer : Buffer) (label : String) : buffer.Noted (buffer.enter label) := by
  rw [enter]
  split
  · exact .of_same rfl rfl
  · exact .of_same rfl rfl

theorem noted_commit (buffer : Buffer) : buffer.Noted buffer.commit :=
  .of_same buffer.commit_document buffer.commit_modified

/-- A transaction that is opened while none is open counts from zero. -/
theorem enter_outermost {buffer : Buffer} (closed : buffer.opened? = none) (label : String) :
    buffer.enter label = ({ buffer with depth := 0 } : Buffer).enter label := by
  simp only [enter, closed]

/-- **Whatever amends the buffer inside of a transaction, rolling back takes it all back.** -/
theorem Amended.rollback_outermost {label : String} (closed : before.opened? = none)
    (amended : (before.enter label).Amended after) :
    after.rollback = { before with depth := 0 } := by
  have outermost : ({ before with depth := 0 } : Buffer).Closed := ⟨closed, rfl⟩
  rw [enter_outermost closed] at amended
  obtain ⟨count, edited⟩ := amended.edited (by rw [enter_opened? outermost]; rfl)
  exact rollback_edited outermost edited

/-- Rolling back notes all changes that it leaves, also inside of another transaction. -/
theorem Amended.noted_rollback {label : String} (amended : (before.enter label).Amended after) :
    before.Noted after.rollback := by
  cases already : before.opened? with
  | none =>
      rw [amended.rollback_outermost already]
      exact .of_same rfl rfl
  | some checkpoint =>
      have entered : before.enter label = { before with depth := before.depth + 1 } := by
        simp only [enter, already]
      obtain ⟨count, edited⟩ := amended.edited (by rw [entered, already]; rfl)
      have inner := edited.depth
      have outer := edited.opened
      rw [entered] at inner outer
      have rolledBack : after.rollback = { after with depth := before.depth } := by
        simp only [rollback, outer, inner, already]
      rw [rolledBack]
      exact ((noted_enter before label).trans amended.noted).trans (.of_same rfl rfl)

end Buffer

namespace Editor

/-- No change goes unnoted, and quitting is where it was. -/
structure Candid (before after : Editor) : Prop where
  kept : before.Kept after
  buffer : before.buffer.Noted after.buffer
  quitState : after.session.quitState = before.session.quitState
  ended : after.session.ended = before.session.ended

/-- Neither the buffer nor what belongs to quitting differs. -/
theorem Candid.of_same {before after : Editor} (kept : before.Kept after)
    (buffer : after.buffer = before.buffer)
    (quitState : after.session.quitState = before.session.quitState)
    (ended : after.session.ended = before.session.ended) : before.Candid after :=
  ⟨kept, .of_same (by rw [buffer]) (by rw [buffer]), quitState, ended⟩

instance : Unlogged Candid where
  refl editor := .of_same (.refl editor) rfl rfl rfl
  trans earlier later :=
    { kept := earlier.kept.trans later.kept
      buffer := earlier.buffer.trans later.buffer
      quitState := later.quitState.trans earlier.quitState
      ended := later.ended.trans earlier.ended }
  logged editor _ := .of_same (.inside editor ..) rfl rfl rfl

theorem Worked.candid {before after : Editor} (worked : before.Worked after) :
    before.Candid after :=
  ⟨worked.framed.kept, worked.buffer.noted, worked.session.quitState, worked.session.ended⟩

theorem emit_candid (editor : Editor) (event : Event) : editor.Candid (editor.emit event) := by
  have steady := editor.emit_steady event
  exact .of_same steady.kept steady.buffer (by rw [emit_session]) (by rw [emit_session])

end Editor

namespace EditorM

open Editor (Candid Worked)

variable {α : Type} {accepts : α → Prop}

theorem Keeps.candid {work : EditorM α} (keeps : work.Keeps Worked accepts) :
    work.Keeps Candid accepts :=
  fun editor => (keeps editor).mono (fun _ _ kept => ⟨kept.1.candid, kept.2⟩)
    (fun _ _ kept => kept.candid)

/-! ## Commands -/

/-- A transaction may be committed, kept open or rolled back. -/
theorem Keeps.transaction {work : EditorM α} (keeps : work.Keeps Worked accepts) (label : String)
    (keepOpen : α → Bool) : (transaction label keepOpen work).Keeps Candid accepts := by
  intro editor
  have enter := editor.buffer.noted_enter label
  rw [ensures_transaction]
  refine (keeps (editor.enterTransaction label)).mono ?_ ?_
  · rintro result inner ⟨worked, accepted⟩
    have noted := enter.trans worked.buffer.noted
    have kept : editor.Kept inner := (Editor.Kept.inside editor ..).trans worked.framed.kept
    refine ⟨?_, accepted⟩
    split
    · exact ⟨kept.trans (.inside ..), noted, worked.session.quitState, worked.session.ended⟩
    · obtain ⟨change, left⟩ := inner.leaveTransaction_eq true
      rw [left]
      exact ⟨kept.trans (.inside ..), noted.trans inner.buffer.noted_commit,
        worked.session.quitState, worked.session.ended⟩
  · intro fault inner worked
    obtain ⟨change, left⟩ := inner.leaveTransaction_eq false
    have kept : editor.Kept inner := (Editor.Kept.inside editor ..).trans worked.framed.kept
    rw [left]
    exact ⟨kept.trans (.inside ..), worked.buffer.noted_rollback, worked.session.quitState,
      worked.session.ended⟩

theorem keeps_undo : undo.Keeps Candid GoesOn := by
  intro editor
  simp only [undo, ensures_bind, ensures_modifyBuffer, ensures_pure]
  refine ⟨fun buffer success => ⟨⟨.inside .., ?_, rfl, rfl⟩, trivial⟩,
    fun _ _ => Editor.Stepwise.refl editor⟩
  split at success
  · rename_i restored undone
    cases success
    exact Buffer.noted_undo? undone
  · cases success

/-! ## Text entry and switching -/

/-- A relation that switching between the modes keeps to: what the host and the log are told and the
count of the lines entered do not matter to it, and neither do the mode and the end of a transaction
that was kept open. -/
structure Switching (related : Editor → Editor → Prop) : Prop where
  emitted (editor : Editor) (event : Event) : related editor (editor.emit event)
  counted (editor : Editor) (entered : Nat) : related editor { editor with entered }
  closed (editor : Editor) (pending : editor.pending = true) :
    related editor (({ editor with pending := false } : Editor).leaveTransaction true)
  switched (editor : Editor) (mode : Mode) :
    related editor (editor.updateSession fun session => { session with mode })
  noted (editor : Editor) (fields : Telemetry.Fields) :
    related editor (editor.updateJournal
      (·.message textLoggerName .debug "text entry closed" fields))
  announced (editor : Editor) (fields : Telemetry.Fields) :
    related editor (editor.updateJournal (·.event "mode.switch" fields))

namespace Switching

variable {related : Editor → Editor → Prop} [Editor.Stepwise related]
  (switching : Switching related)
include switching

omit [Editor.Stepwise related] in
theorem steps_emit (event : Event) : (emit event).Steps related :=
  steps_modify fun editor => switching.emitted editor event

theorem steps_beginText : beginText.Steps related :=
  .bind (steps_modify fun editor => switching.counted editor 0) fun _ =>
    .bind steps_get fun _ => switching.steps_emit _

theorem steps_closePending : closePending.Steps related := by
  refine steps_modify fun editor => ?_
  split
  · rename_i pending
    exact switching.closed editor pending
  · exact Editor.Stepwise.refl editor

theorem steps_endText : endText.Steps related :=
  .bind switching.steps_closePending fun _ => .bind steps_get fun _ =>
    .bind (steps_modify fun editor => switching.noted editor _) fun _ => switching.steps_emit _

theorem steps_enterMode (modeClass : ModeClass) : (enterMode modeClass).Steps related := by
  cases modeClass with
  | text => exact switching.steps_beginText
  | _ => exact steps_pure _

theorem steps_leaveMode (modeClass : ModeClass) : (leaveMode modeClass).Steps related := by
  cases modeClass with
  | text => exact switching.steps_endText
  | _ => exact steps_pure _

theorem steps_switchMode (name : String) : (switchMode name).Steps related := by
  refine .bind (steps_lift _) fun target => .bind steps_get fun editor => ?_
  split
  · exact keeps_throw _
  · rename_i targetClass registered
    have arrival : (do
        modifySession fun session => { session with mode := target }
        enterMode targetClass
        modify (·.updateJournal (·.event "mode.switch" [("mode", name)])) : EditorM Unit).Steps
          related :=
      .bind (steps_modify fun editor => switching.switched editor target) fun _ =>
        .bind (switching.steps_enterMode targetClass) fun _ =>
          steps_modify fun editor => switching.announced editor _
    refine .bind steps_get fun editor => .ite (.bind steps_get fun editor => ?_) (steps_pure _)
    split
    · exact .bind (switching.steps_leaveMode _) fun _ => arrival
    · exact arrival

end Switching

/-- Concluding a reply is switching to the mode that it asks for and ending the session if it says
so. -/
theorem steps_conclude {related : Editor → Editor → Prop} [Editor.Stepwise related] {reply : Reply}
    (switches : ∀ name, reply.switchTo? = some name → (switchMode name).Steps related)
    (ends : reply.ended = true → (endSession reply.status).Steps related) :
    (conclude reply).Steps related := by
  have shown : (if reply.ended then do
        endSession reply.status
        return { kind := .ended, lines := reply.output }
      else if reply.status = "error" then return { kind := .error, lines := reply.output }
      else if reply.output.isEmpty then return { kind := .none }
      else return { kind := .text, lines := reply.output } : EditorM Output).Steps related := by
    split
    · rename_i ended
      exact .bind (ends ended) fun _ => steps_pure _
    · exact .ite (steps_pure _) (.ite (steps_pure _) (steps_pure _))
  rw [conclude]
  split
  · rename_i name asked
    obtain ⟨asked, -⟩ := Option.filter_eq_some_iff.mp asked
    exact .bind (switches name asked) fun _ => shown
  · exact shown

theorem switching_candid : Switching Candid where
  emitted := Editor.emit_candid
  counted editor _ := .of_same (.inside editor ..) rfl rfl rfl
  closed editor _ := by
    obtain ⟨change, left⟩ := ({ editor with pending := false } : Editor).leaveTransaction_eq true
    rw [left]
    exact ⟨.inside editor .., editor.buffer.noted_commit, rfl, rfl⟩
  switched editor _ := .of_same (.inside editor ..) rfl rfl rfl
  noted editor _ := Editor.Unlogged.logged editor _
  announced editor _ := Editor.Unlogged.logged editor _

/-- Concluding a reply that does not end the session. -/
theorem keeps_conclude {reply : Reply} (goesOn : reply.ended = false) :
    (conclude reply).Keeps Candid fun output => output.kind ≠ .ended := by
  have shown : (if reply.ended then do
        endSession reply.status
        return { kind := .ended, lines := reply.output }
      else if reply.status = "error" then return { kind := .error, lines := reply.output }
      else if reply.output.isEmpty then return { kind := .none }
      else return { kind := .text, lines := reply.output } : EditorM Output).Keeps Candid
        fun output => output.kind ≠ .ended := by
    simp only [goesOn, Bool.false_eq_true, if_false]
    exact .ite (keeps_pure (by simp)) (.ite (keeps_pure (by simp)) (keeps_pure (by simp)))
  rw [conclude]
  split
  · exact .bind (switching_candid.steps_switchMode _) fun _ => shown
  · exact shown

/-- A line of a text may fail, but it does not end the session. -/
theorem keeps_handleText (line : String) : (handleText line).Keeps Candid GoesOn := by
  have inserted : (enterLine line).Keeps Candid GoesOn :=
    .bind steps_get fun editor =>
      .bind (steps_editBuffer (Buffer.amends_insertLines (fun _ => editor.session.insertAfter)
          [line]) _ _).candid fun _ =>
        .bind (steps_modify fun editor => .of_same (.inside editor ..) rfl rfl rfl) fun _ =>
          .bind (steps_modify fun editor => .of_same (.inside editor ..) rfl rfl rfl) fun _ =>
            .bind steps_get fun _ => .bind (steps_setCurrent _).candid fun _ => keeps_pure rfl
  have ended : finishText.Keeps Candid GoesOn :=
    .bind steps_get fun _ => .bind (steps_setCurrent _).candid fun _ => keeps_pure rfl
  exact .ite ended inserted

theorem keeps_answerRefusal (refusal : Refusal) :
    (answerRefusal refusal).Keeps Candid GoesOn :=
  .bind (steps_modify fun editor => .of_same (.inside editor ..) rfl rfl rfl) fun _ =>
    .bind (switching_candid.steps_emit _) fun _ =>
      .bind (steps_modify fun editor => Editor.Unlogged.logged editor _) fun _ =>
        .bind steps_get fun _ => keeps_pure rfl

end EditorM

end LineEditor

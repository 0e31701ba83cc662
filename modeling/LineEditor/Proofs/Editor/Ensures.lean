import LineEditor.Editor.Submission

/-!
# What a computation ensures

`EditorM.Ensures` says of a computation, run on one editor, what holds of its
result and of the editor afterwards, and what holds of the fault and of the
editor if it ends in one.  The two conditions are kept apart because what was
done before a fault stays done.

There is one rule for each way in which computations are built.  All of them are
equivalences, so rewriting with them turns a statement about a computation into
one about its parts: for sequences (`EditorM.ensures_bind`), for steps that may
fail (`EditorM.ensures_lift`, `EditorM.ensures_modifyBuffer`), and for the
brackets `EditorM.span`, `EditorM.transaction`, `EditorM.restoringSearch` and
`EditorM.answeringRefusals`.
-/

set_option autoImplicit false

namespace LineEditor

namespace Editor

@[simp] theorem updateSession_session (editor : Editor) (change : Session → Session) :
    (editor.updateSession change).session = change editor.session := rfl

@[simp] theorem updateSession_buffer (editor : Editor) (change : Session → Session) :
    (editor.updateSession change).buffer = editor.buffer := rfl

@[simp] theorem updateJournal_session (editor : Editor)
    (change : Telemetry.Journal → Telemetry.Journal) :
    (editor.updateJournal change).session = editor.session := rfl

@[simp] theorem updateJournal_buffer (editor : Editor)
    (change : Telemetry.Journal → Telemetry.Journal) :
    (editor.updateJournal change).buffer = editor.buffer := rfl

end Editor

/-- A success can be told from the result alone. -/
theorem eq_ok_of_toOption {ε α : Type} {outcome : Except ε α} {result : α}
    (same : outcome.toOption = some result) : outcome = .ok result := by
  cases outcome with
  | ok other => exact congrArg Except.ok (Option.some.inj same)
  | error fault => cases same

namespace EditorM

variable {α β : Type}

/-- What holds of the result of a computation and of the editor afterwards, or of its fault and of
the editor then. -/
def Ensures (work : EditorM α) (editor : Editor) (onResult : α → Editor → Prop)
    (onFault : Fault → Editor → Prop) : Prop :=
  match work.runOn editor with
  | (.ok result, after) => onResult result after
  | (.error fault, after) => onFault fault after

variable {work : EditorM α} {editor after : Editor} {onResult : α → Editor → Prop}
  {onFault : Fault → Editor → Prop}

theorem Ensures.result (ensured : work.Ensures editor onResult onFault) {result : α}
    (run : work.runOn editor = (.ok result, after)) : onResult result after := by
  simpa only [Ensures, run] using ensured

theorem Ensures.fault (ensured : work.Ensures editor onResult onFault) {fault : Fault}
    (run : work.runOn editor = (.error fault, after)) : onFault fault after := by
  simpa only [Ensures, run] using ensured

/-- What is ensured follows from what is ensured more precisely. -/
theorem Ensures.mono {result' : α → Editor → Prop} {fault' : Fault → Editor → Prop}
    (ensured : work.Ensures editor onResult onFault)
    (results : ∀ result after, onResult result after → result' result after)
    (faults : ∀ fault after, onFault fault after → fault' fault after) :
    work.Ensures editor result' fault' := by
  simp only [Ensures] at ensured ⊢
  split at ensured
  · exact results _ _ ensured
  · exact faults _ _ ensured

/-- What holds anyway is ensured. -/
theorem Ensures.of_forall (results : ∀ result after, onResult result after)
    (faults : ∀ fault after, onFault fault after) : work.Ensures editor onResult onFault := by
  rw [Ensures]
  split
  · exact results _ _
  · exact faults _ _

/-- What is ensured of outcomes of both kinds is ensured of the run. -/
theorem Ensures.run (property : Except Fault α → Editor → Prop)
    (ensured : work.Ensures editor (fun result after => property (.ok result) after)
      (fun fault after => property (.error fault) after)) :
    property (work.runOn editor).1 (work.runOn editor).2 := by
  cases run : work.runOn editor with
  | mk outcome after =>
      cases outcome with
      | ok result => exact ensured.result run
      | error fault => exact ensured.fault run

/-- What is ensured is ensured of the one run that there is. -/
theorem Ensures.traced (ensured : work.Ensures editor onResult onFault) :
    work.Ensures editor
      (fun result after => onResult result after ∧ work.runOn editor = (.ok result, after))
      (fun fault after => onFault fault after ∧ work.runOn editor = (.error fault, after)) := by
  simp only [Ensures] at ensured ⊢
  split at ensured
  · rename_i run
    exact ⟨ensured, run⟩
  · rename_i run
    exact ⟨ensured, run⟩

@[simp] theorem runOn_pure (result : α) (editor : Editor) :
    (pure result : EditorM α).runOn editor = (.ok result, editor) := rfl

@[simp] theorem runOn_get (editor : Editor) :
    (get : EditorM Editor).runOn editor = (.ok editor, editor) := rfl

@[simp] theorem runOn_lift (outcome : Except Fault α) (editor : Editor) :
    (liftM outcome : EditorM α).runOn editor = (outcome, editor) := rfl

/-- A sequence goes on from where its first part has ended. -/
theorem runOn_bind (first : EditorM β) (next : β → EditorM α) (editor : Editor) :
    (first >>= next).runOn editor =
      match first.runOn editor with
      | (.ok result, middle) => (next result).runOn middle
      | (.error fault, middle) => (.error fault, middle) := by
  simp only [runOn, ExceptT.run_bind, StateT.run_bind]
  cases (ExceptT.run first).run editor with
  | mk outcome middle => cases outcome <;> rfl

/-! ## Steps -/

@[simp] theorem ensures_pure (result : α) :
    (pure result : EditorM α).Ensures editor onResult onFault ↔ onResult result editor := Iff.rfl

@[simp] theorem ensures_throw (fault : Fault) :
    (throw fault : EditorM α).Ensures editor onResult onFault ↔ onFault fault editor := Iff.rfl

@[simp] theorem ensures_refuse (refusal : Refusal) :
    (refuse refusal : EditorM α).Ensures editor onResult onFault ↔
      onFault (.refusal refusal) editor := Iff.rfl

@[simp] theorem ensures_bind {first : EditorM β} {next : β → EditorM α} :
    (first >>= next).Ensures editor onResult onFault ↔
      first.Ensures editor
        (fun result middle => (next result).Ensures middle onResult onFault) onFault := by
  simp only [Ensures, runOn_bind]
  cases first.runOn editor with
  | mk outcome middle => cases outcome <;> rfl

@[simp] theorem ensures_get {result : Editor → Editor → Prop} :
    (get : EditorM Editor).Ensures editor result onFault ↔ result editor editor := Iff.rfl

@[simp] theorem ensures_set {next : Editor} {result : PUnit → Editor → Prop} :
    (set next : EditorM PUnit).Ensures editor result onFault ↔ result ⟨⟩ next := Iff.rfl

@[simp] theorem ensures_modify {change : Editor → Editor} {result : PUnit → Editor → Prop} :
    (modify change : EditorM PUnit).Ensures editor result onFault ↔
      result ⟨⟩ (change editor) := Iff.rfl

@[simp] theorem ensures_modifySession {change : Session → Session} {result : Unit → Editor → Prop} :
    (modifySession change).Ensures editor result onFault ↔
      result () (editor.updateSession change) := Iff.rfl

@[simp] theorem ensures_emit {event : Event} {result : Unit → Editor → Prop} :
    (emit event).Ensures editor result onFault ↔ result () (editor.emit event) := Iff.rfl

@[simp] theorem ensures_ite {condition : Prop} [Decidable condition] {yes no : EditorM α} :
    (if condition then yes else no).Ensures editor onResult onFault ↔
      (condition → yes.Ensures editor onResult onFault) ∧
        (¬condition → no.Ensures editor onResult onFault) := by
  by_cases holds : condition <;> simp [holds]

/-- A step that may fail and leaves the editor as it is. -/
@[simp] theorem ensures_lift {outcome : Except Fault α} :
    (liftM outcome : EditorM α).Ensures editor onResult onFault ↔
      (∀ result, outcome = .ok result → onResult result editor) ∧
        ∀ fault, outcome = .error fault → onFault fault editor := by
  cases outcome <;> simp [Ensures]

/-- A change of the buffer that may fail, in which case nothing changes. -/
@[simp] theorem ensures_modifyBuffer {change : Buffer → Except Fault Buffer}
    {result : Unit → Editor → Prop} :
    (modifyBuffer change).Ensures editor result onFault ↔
      (∀ buffer, change editor.buffer = .ok buffer → result () { editor with buffer }) ∧
        ∀ fault, change editor.buffer = .error fault → onFault fault editor := by
  simp only [modifyBuffer, ensures_bind, ensures_get, ensures_lift, ensures_set]

/-- A change of the buffer that succeeds. -/
theorem ensures_modifyBuffer_ok {change : Buffer → Except Fault Buffer} {buffer : Buffer}
    {result : Unit → Editor → Prop} (success : change editor.buffer = .ok buffer) :
    (modifyBuffer change).Ensures editor result onFault ↔ result () { editor with buffer } := by
  simp [success]

/-! ## Brackets -/

/-- A span is entered before what it covers and left behind it. -/
theorem runOn_span (request : Telemetry.SpanRequest) (work : EditorM α) (editor : Editor) :
    (span request work).runOn editor =
      match work.runOn { editor with journal := (editor.journal.enter request).2 } with
      | (outcome, inner) =>
        (outcome, inner.updateJournal
          (·.leave (editor.journal.enter request).1 (faultOf? outcome))) := rfl

@[simp] theorem ensures_span {request : Telemetry.SpanRequest} :
    (span request work).Ensures editor onResult onFault ↔
      work.Ensures { editor with journal := (editor.journal.enter request).2 }
        (fun result inner => onResult result
          (inner.updateJournal (·.leave (editor.journal.enter request).1 none)))
        (fun fault inner => onFault fault
          (inner.updateJournal (·.leave (editor.journal.enter request).1 (some fault)))) := by
  simp only [Ensures, runOn_span]
  cases work.runOn { editor with journal := (editor.journal.enter request).2 } with
  | mk outcome inner => cases outcome <;> rfl

/-- A transaction is committed or kept open behind a result, and rolled back behind a fault. -/
theorem runOn_transaction (label : String) (keepOpen : α → Bool) (work : EditorM α)
    (editor : Editor) :
    (transaction label keepOpen work).runOn editor =
      match work.runOn (editor.enterTransaction label) with
      | (.ok result, inner) =>
        (.ok result,
          if keepOpen result then { inner with pending := true } else inner.leaveTransaction true)
      | (.error fault, inner) => (.error fault, inner.leaveTransaction false) := rfl

@[simp] theorem ensures_transaction {label : String} {keepOpen : α → Bool} :
    (transaction label keepOpen work).Ensures editor onResult onFault ↔
      work.Ensures (editor.enterTransaction label)
        (fun result inner => onResult result
          (if keepOpen result then { inner with pending := true } else inner.leaveTransaction true))
        (fun fault inner => onFault fault (inner.leaveTransaction false)) := by
  simp only [Ensures, runOn_transaction]
  cases work.runOn (editor.enterTransaction label) with
  | mk outcome inner => cases outcome <;> rfl

/-- A refusal takes the remembered search back. -/
theorem runOn_restoringSearch (work : EditorM α) (editor : Editor) :
    (restoringSearch work).runOn editor =
      match work.runOn editor with
      | (.error (.refusal refusal), inner) =>
        (.error (.refusal refusal),
          inner.updateSession fun session =>
            { session with lastSearch? := editor.session.lastSearch? })
      | outcome => outcome := rfl

@[simp] theorem ensures_restoringSearch :
    (restoringSearch work).Ensures editor onResult onFault ↔
      work.Ensures editor onResult
        (fun fault inner => onFault fault
          (if fault.isRoutine then
            inner.updateSession fun session =>
              { session with lastSearch? := editor.session.lastSearch? }
          else inner)) := by
  simp only [Ensures, runOn_restoringSearch]
  cases work.runOn editor with
  | mk outcome inner =>
      cases outcome with
      | ok result => rfl
      | error fault => cases fault <;> rfl

/-- A file fault becomes a refusal. -/
theorem runOn_refusingFiles (cause : FileCause) (work : EditorM α) (editor : Editor) :
    (refusingFiles cause work).runOn editor =
      match work.runOn editor with
      | (.error fault, inner) =>
        (.error (if isFileFault fault then .refusal (.inputOutput cause) else fault), inner)
      | outcome => outcome := rfl

@[simp] theorem ensures_refusingFiles {cause : FileCause} :
    (refusingFiles cause work).Ensures editor onResult onFault ↔
      work.Ensures editor onResult
        (fun fault inner => onFault
          (if isFileFault fault then .refusal (.inputOutput cause) else fault) inner) := by
  simp only [Ensures, runOn_refusingFiles]
  cases work.runOn editor with
  | mk outcome inner => cases outcome <;> rfl

/-- A refusal is answered, and any other fault escapes. -/
theorem runOn_answeringRefusals (work : EditorM Reply) (editor : Editor) :
    (answeringRefusals work).runOn editor =
      match work.runOn editor with
      | (.error (.refusal refusal), inner) => (answerRefusal refusal).runOn inner
      | outcome => outcome := rfl

/-- What is answered to a refusal decides about what is ensured then. -/
theorem ensures_answeringRefusals {work : EditorM Reply} {onReply : Reply → Editor → Prop} :
    (answeringRefusals work).Ensures editor onReply onFault ↔
      work.Ensures editor onReply
        (fun fault inner => match fault with
          | .refusal refusal => (answerRefusal refusal).Ensures inner onReply onFault
          | fault => onFault fault inner) := by
  simp only [Ensures, runOn_answeringRefusals]
  cases work.runOn editor with
  | mk outcome inner =>
      cases outcome with
      | ok result => rfl
      | error fault => cases fault <;> rfl

-- From here on only the rules open it; otherwise elaboration would run the computation.
attribute [irreducible] Ensures

end EditorM

end LineEditor

import LineEditor.Proofs.Buffer.Changes
import LineEditor.Proofs.Editor.Outcomes

/-!
# What commands never do

A relation between editors that holds from step to step passes to everything
that is built of such steps (`EditorM.Keeps`), whether it ends in a result or in
a fault.

The relation that matters here is `Editor.Worked`: the buffer has been amended,
and nothing but that, the disk, the log and a part of the session can differ.
The mode, the last error and what belongs to quitting stay as they were.  It
holds of the handlers of the editor's own commands but for undo, writing and
quitting, and of all steps of scripted handlers.  Nothing is assumed of the
buffer or of the lines that a handler is given.
-/

set_option autoImplicit false

namespace LineEditor

namespace Editor

/-- A relation from step to step. -/
class Stepwise (related : Editor → Editor → Prop) : Prop where
  refl (editor : Editor) : related editor editor
  trans {before middle after : Editor} :
    related before middle → related middle after → related before after

/-- A relation from step to step, which the log does not affect. -/
class Unlogged (related : Editor → Editor → Prop) : Prop extends Stepwise related where
  logged (editor : Editor) (journal : Telemetry.Journal) : related editor { editor with journal }

end Editor

/-- What no command but those to quit changes in the session. -/
structure Session.SameStanding (before after : Session) : Prop where
  mode : after.mode = before.mode
  lastError : after.lastError = before.lastError
  quitState : after.quitState = before.quitState
  ended : after.ended = before.ended

namespace Editor

/-- A command has done its work: it has amended the buffer, and the session stands as before. -/
structure Worked (before after : Editor) : Prop where
  framed : before.Framed after
  buffer : before.buffer.Amended after.buffer
  session : before.session.SameStanding after.session

/-- The buffer is the same. -/
theorem Worked.inside (editor : Editor) {session : Session}
    (standing : editor.session.SameStanding session) (disk : Disk) (journal : Telemetry.Journal) :
    editor.Worked { editor with session, disk, journal } :=
  ⟨.inside .., .refl _, standing⟩

instance : Unlogged Worked where
  refl editor := .inside editor ⟨rfl, rfl, rfl, rfl⟩ editor.disk editor.journal
  trans earlier later :=
    { framed := earlier.framed.trans later.framed
      buffer := earlier.buffer.trans later.buffer
      session :=
        { mode := later.session.mode.trans earlier.session.mode
          lastError := later.session.lastError.trans earlier.session.lastError
          quitState := later.session.quitState.trans earlier.session.quitState
          ended := later.session.ended.trans earlier.session.ended } }
  logged editor journal := .inside editor ⟨rfl, rfl, rfl, rfl⟩ editor.disk journal

theorem Sought.worked {before after : Editor} (sought : before.Sought after) :
    before.Worked after := by
  obtain ⟨lastSearch?, journal, rfl⟩ := sought
  exact ⟨.inside .., .refl _, ⟨rfl, rfl, rfl, rfl⟩⟩

end Editor

namespace EditorM

section Runs

variable {α : Type} {work : EditorM α} {editor : Editor} {onResult : α → Editor → Prop}
  {onFault : Fault → Editor → Prop}

/-- What is ensured of a result holds if there is one. -/
theorem Ensures.of_ok (ensured : work.Ensures editor onResult onFault) {result : α}
    (succeeded : (work.runOn editor).1 = .ok result) : onResult result (work.runOn editor).2 :=
  ensured.result (Prod.ext succeeded rfl)

/-- What is ensured of a fault holds if there is one. -/
theorem Ensures.of_error (ensured : work.Ensures editor onResult onFault) {fault : Fault}
    (failed : (work.runOn editor).1 = .error fault) : onFault fault (work.runOn editor).2 :=
  ensured.fault (Prod.ext failed rfl)

/-- What is ensured twice over is ensured together. -/
theorem Ensures.and {onResult' : α → Editor → Prop} {onFault' : Fault → Editor → Prop}
    (one : work.Ensures editor onResult onFault) (two : work.Ensures editor onResult' onFault') :
    work.Ensures editor (fun result after => onResult result after ∧ onResult' result after)
      (fun fault after => onFault fault after ∧ onFault' fault after) :=
  one.traced.mono (fun _ _ ensured => ⟨ensured.1, two.result ensured.2⟩)
    (fun _ _ ensured => ⟨ensured.1, two.fault ensured.2⟩)

end Runs

variable {α β : Type} {related : Editor → Editor → Prop}

/-- A computation keeps to a relation from any editor on, and its results are accepted. -/
def Keeps (related : Editor → Editor → Prop) (accepts : α → Prop) (work : EditorM α) : Prop :=
  ∀ editor, work.Ensures editor (fun result after => related editor after ∧ accepts result)
    (fun _ after => related editor after)

/-- A computation of which only the steps matter. -/
abbrev Steps (related : Editor → Editor → Prop) (work : EditorM α) : Prop :=
  work.Keeps related fun _ => True

section Composition

variable {accepts : α → Prop}

theorem steps_modify {change : Editor → Editor} (step : ∀ editor, related editor (change editor)) :
    (modify change : EditorM PUnit).Steps related :=
  fun editor => ensures_modify.mpr ⟨step editor, trivial⟩

theorem Keeps.ite {condition : Prop} [Decidable condition] {yes no : EditorM α}
    (whenTrue : yes.Keeps related accepts) (whenFalse : no.Keeps related accepts) :
    (if condition then yes else no).Keeps related accepts := by
  split
  · exact whenTrue
  · exact whenFalse

theorem Keeps.weaken {work : EditorM α} {others : α → Prop} (keeps : work.Keeps related accepts)
    (weaker : ∀ result, accepts result → others result) : work.Keeps related others :=
  fun editor => (keeps editor).mono (fun _ _ kept => ⟨kept.1, weaker _ kept.2⟩)
    (fun _ _ kept => kept)

/-- What a computation keeps to holds between the two ends of its run. -/
theorem Keeps.related_run {work : EditorM α} (keeps : work.Keeps related accepts)
    (editor : Editor) : related editor (work.runOn editor).2 :=
  Ensures.run (fun _ after => related editor after)
    ((keeps editor).mono (fun _ _ kept => kept.1) fun _ _ kept => kept)

theorem Keeps.refusingFiles {work : EditorM α} (keeps : work.Keeps related accepts)
    (cause : FileCause) : (refusingFiles cause work).Keeps related accepts :=
  fun editor => ensures_refusingFiles.mpr (keeps editor)

variable [Editor.Stepwise related]

theorem keeps_pure {result : α} (accepted : accepts result) :
    (pure result : EditorM α).Keeps related accepts :=
  fun editor => ensures_pure result |>.mpr ⟨Editor.Stepwise.refl editor, accepted⟩

theorem steps_pure (result : α) : (pure result : EditorM α).Steps related :=
  keeps_pure trivial

theorem keeps_throw (fault : Fault) : (throw fault : EditorM α).Keeps related accepts :=
  fun editor => ensures_throw fault |>.mpr (Editor.Stepwise.refl editor)

theorem steps_get : (get : EditorM Editor).Steps related :=
  fun editor => ensures_get.mpr ⟨Editor.Stepwise.refl editor, trivial⟩

theorem steps_lift (outcome : Except Fault α) : (liftM outcome : EditorM α).Steps related :=
  fun editor => ensures_lift.mpr
    ⟨fun _ _ => ⟨Editor.Stepwise.refl editor, trivial⟩, fun _ _ => Editor.Stepwise.refl editor⟩

/-- What the steps of a sequence keep to, the sequence keeps to. -/
theorem Keeps.bind {first : EditorM β} {next : β → EditorM α} (heads : first.Steps related)
    (rests : ∀ result, (next result).Keeps related accepts) :
    (first >>= next).Keeps related accepts := by
  intro editor
  rw [ensures_bind]
  refine (heads editor).mono ?_ (fun _ _ kept => kept)
  rintro result middle ⟨earlier, -⟩
  exact (rests result middle).mono
    (fun _ _ later => ⟨Editor.Stepwise.trans earlier later.1, later.2⟩)
    (fun _ _ later => Editor.Stepwise.trans earlier later)

/-- The first part of a sequence may be left out. -/
theorem Keeps.when {condition : Prop} [Decidable condition] {first : EditorM PUnit}
    {next : PUnit → EditorM α} (heads : first.Steps related)
    (rests : ∀ result, (next result).Keeps related accepts) :
    (if condition then first >>= next else next ⟨⟩).Keeps related accepts :=
  .ite (.bind heads rests) (rests ⟨⟩)

/-- A span makes no difference if its two ends are such steps. -/
theorem Keeps.span_between {work : EditorM α} (keeps : work.Keeps related accepts)
    {request : Telemetry.SpanRequest}
    (enters : ∀ editor : Editor,
      related editor { editor with journal := (editor.journal.enter request).2 })
    (leaves : ∀ (editor : Editor) (span : Telemetry.Span) (fault? : Option Fault),
      related editor (editor.updateJournal (·.leave span fault?))) :
    (span request work).Keeps related accepts := by
  intro editor
  rw [ensures_span]
  exact (keeps _).mono
    (fun _ inner kept => ⟨Editor.Stepwise.trans (Editor.Stepwise.trans (enters editor) kept.1)
      (leaves inner _ _), kept.2⟩)
    (fun _ inner kept => Editor.Stepwise.trans (Editor.Stepwise.trans (enters editor) kept)
      (leaves inner _ _))

omit [Editor.Stepwise related] in
theorem Keeps.span [Editor.Unlogged related] {work : EditorM α}
    (keeps : work.Keeps related accepts) (request : Telemetry.SpanRequest) :
    (span request work).Keeps related accepts :=
  keeps.span_between (fun editor => Editor.Unlogged.logged editor _)
    (fun editor _ _ => Editor.Unlogged.logged editor _)

end Composition

/-! ## Steps of commands -/

open Editor (Worked)

/-- A reply after which the session goes on. -/
abbrev GoesOn (reply : Reply) : Prop :=
  reply.ended = false

/-- A reply that succeeds and asks for nothing. -/
structure Plain (reply : Reply) : Prop where
  succeeded : reply.status ≠ "error"
  stays : reply.switchTo? = none
  goesOn : reply.ended = false

theorem keeps_reply {reply : Reply} (plain : Plain reply) :
    (pure reply : EditorM Reply).Keeps Worked Plain :=
  keeps_pure plain

theorem steps_modifySession {change : Session → Session}
    (standing : ∀ session : Session, session.SameStanding (change session)) :
    (modifySession change).Steps Worked :=
  steps_modify fun editor => .inside editor (standing editor.session) _ _

theorem steps_modifyBuffer {change : Buffer → Except Fault Buffer} (amends : Buffer.Amends change) :
    (modifyBuffer change).Steps Worked := by
  intro editor
  rw [ensures_modifyBuffer]
  refine ⟨fun buffer success => ⟨⟨.inside .., amends _ _ success, ⟨rfl, rfl, rfl, rfl⟩⟩, trivial⟩,
    fun _ _ => Editor.Stepwise.refl editor⟩

/-- An edit may be reported to the log. -/
theorem steps_editBuffer {change : Buffer → Except Fault Buffer} (amends : Buffer.Amends change)
    (label : String) (hasEffect : Bool) : (editBuffer label hasEffect change).Steps Worked :=
  .bind steps_get fun _ => .bind (steps_modifyBuffer amends) fun _ =>
    .ite (steps_modify fun editor => Editor.Unlogged.logged editor _) (steps_pure _)

theorem steps_resolveAddress (token : String) : (resolveAddress token).Steps Worked :=
  fun editor => (ensures_resolveAddress token editor).mono
    (fun _ _ sought => ⟨sought.worked, trivial⟩) (fun _ _ failed => failed.1.worked)

theorem steps_setCurrent (line : Int) : (setCurrent line).Steps Worked :=
  steps_modifyBuffer (Buffer.amends_setCurrent fun _ => line)

/-- Navigation works like a command. -/
theorem keeps_navigate (line : CommandLine) (first? last? : Option Nat) :
    (navigate line first? last?).Keeps Worked Plain :=
  .bind steps_get fun _ => .bind (steps_lift _) fun _ => .bind (steps_setCurrent _) fun _ =>
    .bind steps_get fun _ => .bind (steps_lift _) fun _ => keeps_reply ⟨by simp, rfl, rfl⟩

/-! ## Handlers -/

variable (invocation : Invocation)

theorem steps_visitLines : (visitLines invocation).Steps Worked :=
  .bind steps_get fun _ => .bind (steps_lift _) fun _ => .bind (steps_setCurrent _) fun _ =>
    steps_pure _

/-- The lines that are visited may be shown in any way. -/
theorem keeps_shownLines (shown : List String → List String) :
    (visitLines invocation >>= fun lines =>
      pure { status := "print", output := shown lines } : EditorM Reply).Keeps Worked Plain :=
  .bind (steps_visitLines invocation) fun _ => keeps_reply ⟨by simp, rfl, rfl⟩

theorem keeps_showError : showError.Keeps Worked Plain :=
  .bind steps_get fun _ => keeps_reply ⟨by simp, rfl, rfl⟩

theorem keeps_toggleVerbose : toggleVerbose.Keeps Worked Plain :=
  .bind (steps_modifySession fun _ => ⟨rfl, rfl, rfl, rfl⟩) fun _ => keeps_showError

theorem keeps_togglePrompt : togglePrompt.Keeps Worked Plain :=
  .bind (steps_modifySession fun _ => ⟨rfl, rfl, rfl, rfl⟩) fun _ => keeps_reply ⟨by simp, rfl, rfl⟩

theorem keeps_setMark : (setMark invocation).Keeps Worked Plain := by
  rw [setMark]
  split
  · exact .bind (steps_modifySession fun _ => ⟨rfl, rfl, rfl, rfl⟩) fun _ => keeps_reply ⟨by simp, rfl, rfl⟩
  · exact keeps_throw _

theorem keeps_showFileName : showFileName.Keeps Worked Plain :=
  .bind steps_get fun _ => keeps_reply ⟨by simp, rfl, rfl⟩

theorem steps_executeCommand (command : String) : (executeCommand command).Steps Worked := by
  intro editor
  simp only [executeCommand, ensures_bind, ensures_get, ensures_lift, ensures_set]
  exact ⟨fun _ _ => ⟨.inside editor ⟨rfl, rfl, rfl, rfl⟩ _ _, trivial⟩,
    fun _ _ => .inside editor ⟨rfl, rfl, rfl, rfl⟩ _ _⟩

theorem keeps_runShell : (runShell invocation).Keeps Worked Plain := by
  rw [runShell]
  refine .when (keeps_throw _) fun _ => ?_
  exact .bind ((steps_executeCommand _).span _) fun _ => keeps_reply ⟨by simp, rfl, rfl⟩

theorem steps_fileText (path : String) : (fileText path).Steps Worked :=
  .bind steps_get fun _ => steps_lift _

theorem keeps_readFile : (readFile invocation).Keeps Worked Plain := by
  rw [readFile]
  refine .when (keeps_throw _) fun _ => ?_
  refine .bind ((steps_fileText _).refusingFiles _) fun text => ?_
  exact .bind (steps_modifyBuffer (Buffer.amends_insertText _ text)) fun _ => keeps_reply ⟨by simp, rfl, rfl⟩

theorem keeps_openText (after : Int) : (openText after).Keeps Worked GoesOn :=
  .bind steps_get fun _ =>
    .bind (steps_modifySession fun _ => ⟨rfl, rfl, rfl, rfl⟩) fun _ => keeps_pure rfl

theorem keeps_changeLines : (changeLines invocation).Keeps Worked GoesOn :=
  .bind (steps_modifyBuffer (Buffer.amends_removeRange _ _)) fun _ => keeps_openText _

theorem keeps_deleteLines : (deleteLines invocation).Keeps Worked Plain :=
  .bind (steps_modifyBuffer (Buffer.amends_removeLines _ _)) fun _ => keeps_reply ⟨by simp, rfl, rfl⟩

theorem keeps_joinLines : (joinLines invocation).Keeps Worked Plain :=
  .bind steps_get fun _ => .bind (steps_lift _) fun _ =>
    .when (steps_modifyBuffer (Buffer.amends_joinLines _ _)) fun _ => keeps_reply ⟨by simp, rfl, rfl⟩

theorem steps_destination (args : String) : (destination args).Steps Worked :=
  .bind (steps_resolveAddress _) fun _ => .bind steps_get fun _ =>
    .when (keeps_throw _) fun _ => steps_pure _

theorem keeps_moveLines : (moveLines invocation).Keeps Worked Plain :=
  .bind (steps_destination _) fun _ => .when (keeps_throw _) fun _ => .bind steps_get fun _ =>
    .when (steps_modifyBuffer (Buffer.amends_moveLines _ _ _)) fun _ => keeps_reply ⟨by simp, rfl, rfl⟩

theorem keeps_copyLines : (copyLines invocation).Keeps Worked Plain :=
  .bind (steps_destination _) fun _ => .bind steps_get fun _ =>
    .when (steps_modifyBuffer (Buffer.amends_copyLines _ _ _)) fun _ => keeps_reply ⟨by simp, rfl, rfl⟩

theorem keeps_substitute : (substitute invocation).Keeps Worked Plain := by
  refine .bind steps_get fun _ => .bind (steps_lift _) fun _ => .bind (steps_lift _) fun _ => ?_
  split
  · exact keeps_throw _
  · exact .bind (steps_modifyBuffer (Buffer.amends_replaceLines _)) fun _ =>
      .bind (steps_setCurrent _) fun _ =>
        .bind (steps_modifySession fun _ => ⟨rfl, rfl, rfl, rfl⟩) fun _ => keeps_reply ⟨by simp, rfl, rfl⟩

/-- The handlers that open text entry. -/
def opening : List Builtin :=
  [.appendText, .changeLines, .insertText]

/-- **The editor's own handlers keep to their work and ask for nothing**, but for undo, writing,
quitting and those that open text entry. -/
theorem keeps_builtin_plain (handler : Builtin) (notUndo : handler ≠ .undo)
    (notWrite : handler ≠ .writeFile) (notQuit : handler ≠ .quit)
    (notForced : handler ≠ .quitUnconditionally) (notOpening : handler ∉ opening) :
    (handler.run invocation).Keeps Worked Plain := by
  cases handler with
  | lineNumber => exact keeps_reply ⟨by simp, rfl, rfl⟩
  | runShell => exact keeps_runShell invocation
  | appendText => exact absurd (by decide) notOpening
  | changeLines => exact absurd (by decide) notOpening
  | deleteLines => exact keeps_deleteLines invocation
  | showFileName => exact keeps_showFileName
  | showError => exact keeps_showError
  | toggleVerbose => exact keeps_toggleVerbose
  | insertText => exact absurd (by decide) notOpening
  | joinLines => exact keeps_joinLines invocation
  | setMark => exact keeps_setMark invocation
  | listLines => exact keeps_shownLines invocation _
  | moveLines => exact keeps_moveLines invocation
  | numberLines => exact keeps_shownLines invocation _
  | printLines => exact keeps_shownLines invocation fun lines => lines
  | togglePrompt => exact keeps_togglePrompt
  | quit => exact absurd rfl notQuit
  | quitUnconditionally => exact absurd rfl notForced
  | readFile => exact keeps_readFile invocation
  | substitute => exact keeps_substitute invocation
  | copyLines => exact keeps_copyLines invocation
  | undo => exact absurd rfl notUndo
  | writeFile => exact absurd rfl notWrite
  | comment => exact keeps_reply ⟨by simp, rfl, rfl⟩

theorem keeps_opening (handler : Builtin) (isOpening : handler ∈ opening) :
    (handler.run invocation).Keeps Worked GoesOn := by
  simp only [opening, List.mem_cons, List.not_mem_nil, or_false] at isOpening
  rcases isOpening with rfl | rfl | rfl
  · exact keeps_openText _
  · exact keeps_changeLines invocation
  · exact keeps_openText _

/-- **The editor's own handlers keep to their work**, but for undo, writing and quitting. -/
theorem keeps_builtin (handler : Builtin) (notUndo : handler ≠ .undo)
    (notWrite : handler ≠ .writeFile) (notQuit : handler ≠ .quit)
    (notForced : handler ≠ .quitUnconditionally) :
    (handler.run invocation).Keeps Worked GoesOn := by
  by_cases isOpening : handler ∈ opening
  · exact keeps_opening invocation handler isOpening
  · exact (keeps_builtin_plain invocation handler notUndo notWrite notQuit notForced
      isOpening).weaken fun _ plain => plain.goesOn

end EditorM

/-- Every step of a scripted handler keeps to its work. -/
theorem ScriptStep.steps_run (invocation : Invocation) (reply : Reply) (step : ScriptStep) :
    (step.run invocation reply).Steps Editor.Worked := by
  cases step with
  | delete =>
      exact .bind (EditorM.steps_editBuffer (Buffer.amends_deleteRange _ _) _ _) fun _ =>
        EditorM.steps_pure _
  | deleteRange start finish =>
      exact .bind (EditorM.steps_editBuffer (Buffer.amends_deleteRange _ _) _ _) fun _ =>
        EditorM.steps_pure _
  | insert after lines =>
      exact .bind (EditorM.steps_editBuffer (Buffer.amends_insertLines (fun _ => after) lines) _ _)
        fun _ => EditorM.steps_pure _
  | setCurrent line =>
      exact .bind (EditorM.steps_setCurrent line) fun _ => EditorM.steps_pure _
  | setSearch text? =>
      exact .bind (EditorM.steps_modifySession fun _ => ⟨rfl, rfl, rfl, rfl⟩) fun _ =>
        EditorM.steps_pure _
  | fail fault => exact EditorM.keeps_throw fault
  | echo => exact EditorM.steps_pure _
  | reply newReply => exact EditorM.steps_pure _
  | noReply => exact EditorM.steps_pure _

end LineEditor

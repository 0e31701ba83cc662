import LineEditor.Proofs.Editor.Ensures

/-!
# What is told has no effect

The log and the events for the host go out of an editor and nothing of them
comes back.  So two editors that differ only in what they have told so far
(`Editor.Tells`) give the same answers to the same lines, and differ afterwards
again only in what they have told (`EditorM.sameOutcome_submit`).

`EditorM.Parallel` says this of two computations rather than of one, because they
may tell different things on their way.  There is one rule for each way in which
computations are built.
-/

set_option autoImplicit false

namespace LineEditor

/-- The second editor differs from the first one at most in what it has told to the outside. -/
def Editor.Tells (editor other : Editor) : Prop :=
  ∃ journal events, other = { editor with journal, events }

namespace Editor.Tells

theorem refl (editor : Editor) : editor.Tells editor :=
  ⟨editor.journal, editor.events, rfl⟩

/-- Telling the log something. -/
theorem journal {editor other : Editor} (tells : editor.Tells other)
    (change change' : Telemetry.Journal → Telemetry.Journal) :
    (editor.updateJournal change).Tells (other.updateJournal change') := by
  obtain ⟨journal, events, rfl⟩ := tells
  exact ⟨change' journal, events, rfl⟩

/-- Telling the host something. -/
theorem emit {editor other : Editor} (tells : editor.Tells other) (event event' : Event) :
    (editor.emit event).Tells (other.emit event') := by
  obtain ⟨journal, events, rfl⟩ := tells
  cases hosted : editor.hosted with
  | false =>
      simp only [Editor.emit, hosted, Bool.false_eq_true, if_false]
      exact ⟨_, _, rfl⟩
  | true =>
      simp only [Editor.emit, hosted, if_true]
      exact ⟨_, _, rfl⟩

/-- Leaving a transaction. -/
theorem leaveTransaction {editor other : Editor} (tells : editor.Tells other) (succeeded : Bool) :
    (editor.leaveTransaction succeeded).Tells (other.leaveTransaction succeeded) := by
  obtain ⟨journal, events, rfl⟩ := tells
  simp only [Editor.leaveTransaction]
  split
  · exact ⟨_, events, rfl⟩
  · exact ⟨journal, events, rfl⟩

end Editor.Tells

namespace EditorM

variable {α β : Type}

/-- Two outcomes agree in everything but what the editors have told. -/
inductive SameOutcome : Except Fault α × Editor → Except Fault α × Editor → Prop where
  | result (result : α) {after after' : Editor} (tells : after.Tells after') :
      SameOutcome (.ok result, after) (.ok result, after')
  | fault (fault : Fault) {after after' : Editor} (tells : after.Tells after') :
      SameOutcome (.error fault, after) (.error fault, after')

theorem SameOutcome.same {run run' : Except Fault α × Editor} (outcome : SameOutcome run run') :
    run'.1 = run.1 := by
  cases outcome with
  | result => rfl
  | fault => rfl

theorem SameOutcome.tells {run run' : Except Fault α × Editor} (outcome : SameOutcome run run') :
    run.2.Tells run'.2 := by
  cases outcome with
  | result _ tells => exact tells
  | fault _ tells => exact tells

/-- Two computations do the same on editors that differ only in what they have told. -/
def Parallel (work other : EditorM α) : Prop :=
  ∀ editor editor' : Editor, editor.Tells editor' →
    SameOutcome (work.runOn editor) (other.runOn editor')

section Composition

variable {work other : EditorM α}

theorem parallel_pure (result : α) : (pure result : EditorM α).Parallel (pure result) :=
  fun _ _ tells => .result result tells

theorem parallel_throw (fault : Fault) : (throw fault : EditorM α).Parallel (throw fault) :=
  fun _ _ tells => .fault fault tells

theorem parallel_lift (outcome : Except Fault α) :
    (liftM outcome : EditorM α).Parallel (liftM outcome) := by
  cases outcome with
  | ok result => exact parallel_pure result
  | error fault => exact parallel_throw fault

/-- Sequences are parallel if their parts are. -/
theorem Parallel.bind {first first' : EditorM β} {next next' : β → EditorM α}
    (heads : first.Parallel first') (rests : ∀ result, (next result).Parallel (next' result)) :
    (first >>= next).Parallel (first' >>= next') := by
  intro editor editor' tells
  have middle := heads editor editor' tells
  rw [runOn_bind, runOn_bind]
  revert middle
  generalize first.runOn editor = run
  generalize first'.runOn editor' = run'
  intro middle
  cases middle with
  | result result tells => exact rests result _ _ tells
  | fault fault tells => exact .fault fault tells

/-- What goes on with the editor must go on in parallel from editors that differ only in what they
have told. -/
theorem Parallel.get {next next' : Editor → EditorM α}
    (rests : ∀ editor journal events, (next editor).Parallel
      (next' { editor with journal, events })) :
    ((get : EditorM Editor) >>= next).Parallel ((get : EditorM Editor) >>= next') := by
  rintro editor _ ⟨journal, events, rfl⟩
  exact rests editor journal events editor _ ⟨journal, events, rfl⟩

theorem parallel_modify {change change' : Editor → Editor}
    (step : ∀ editor editor' : Editor, editor.Tells editor' →
      (change editor).Tells (change' editor')) :
    (modify change : EditorM PUnit).Parallel (modify change') :=
  fun editor editor' tells => .result _ (step editor editor' tells)

theorem parallel_set {next next' : Editor} (tells : next.Tells next') :
    (set next : EditorM PUnit).Parallel (set next') :=
  fun _ _ _ => .result _ tells

theorem Parallel.ite {condition : Prop} [Decidable condition] {yes no yes' no' : EditorM α}
    (whenTrue : yes.Parallel yes') (whenFalse : no.Parallel no') :
    (if condition then yes else no).Parallel (if condition then yes' else no') := by
  split
  · exact whenTrue
  · exact whenFalse

/-- The first part of a sequence may be left out. -/
theorem Parallel.when {condition : Prop} [Decidable condition] {first first' : EditorM PUnit}
    {next next' : PUnit → EditorM α} (heads : first.Parallel first')
    (rests : ∀ result, (next result).Parallel (next' result)) :
    (if condition then first >>= next else next ⟨⟩).Parallel
      (if condition then first' >>= next' else next' ⟨⟩) :=
  .ite (.bind heads rests) (rests ⟨⟩)

/-! ## Brackets -/

theorem Parallel.span (parallel : work.Parallel other)
    (request request' : Telemetry.SpanRequest) :
    (span request work).Parallel (span request' other) := by
  rintro editor _ ⟨journal, events, rfl⟩
  have inner := parallel { editor with journal := (editor.journal.enter request).2 }
    { editor with journal := (journal.enter request').2, events } ⟨_, _, rfl⟩
  rw [runOn_span, runOn_span]
  revert inner
  generalize work.runOn { editor with journal := (editor.journal.enter request).2 } = run
  generalize other.runOn { editor with journal := (journal.enter request').2, events } = run'
  intro inner
  cases inner with
  | result result tells => exact .result result (tells.journal _ _)
  | fault fault tells => exact .fault fault (tells.journal _ _)

theorem Parallel.transaction (parallel : work.Parallel other) (label : String)
    (keepOpen : α → Bool) :
    (transaction label keepOpen work).Parallel (transaction label keepOpen other) := by
  rintro editor _ ⟨journal, events, rfl⟩
  have inner := parallel (editor.enterTransaction label)
    ({ editor with journal, events }.enterTransaction label) ⟨journal, events, rfl⟩
  rw [runOn_transaction, runOn_transaction]
  revert inner
  generalize work.runOn (editor.enterTransaction label) = run
  generalize other.runOn ({ editor with journal, events }.enterTransaction label) = run'
  intro inner
  cases inner with
  | fault fault tells => exact .fault fault (tells.leaveTransaction false)
  | result result tells =>
      refine .result result ?_
      split
      · obtain ⟨journal', events', rfl⟩ := tells
        exact ⟨journal', events', rfl⟩
      · exact tells.leaveTransaction true

theorem Parallel.restoringSearch (parallel : work.Parallel other) :
    (restoringSearch work).Parallel (restoringSearch other) := by
  rintro editor _ ⟨journal, events, rfl⟩
  have inner := parallel editor { editor with journal, events } ⟨journal, events, rfl⟩
  rw [runOn_restoringSearch, runOn_restoringSearch]
  revert inner
  generalize work.runOn editor = run
  generalize other.runOn { editor with journal, events } = run'
  intro inner
  cases inner with
  | result result tells => exact .result result tells
  | fault fault tells =>
      obtain ⟨journal', events', rfl⟩ := tells
      cases fault with
      | refusal refusal => exact .fault _ ⟨journal', events', rfl⟩
      | _ => exact .fault _ ⟨journal', events', rfl⟩

theorem Parallel.refusingFiles (parallel : work.Parallel other) (cause : FileCause) :
    (refusingFiles cause work).Parallel (refusingFiles cause other) := by
  intro editor editor' tells
  have inner := parallel editor editor' tells
  rw [runOn_refusingFiles, runOn_refusingFiles]
  revert inner
  generalize work.runOn editor = run
  generalize other.runOn editor' = run'
  intro inner
  cases inner with
  | result result tells => exact .result result tells
  | fault fault tells => exact .fault _ tells

theorem parallel_emit (event event' : Event) : (emit event).Parallel (emit event') :=
  parallel_modify fun _ _ tells => tells.emit event event'

theorem parallel_journal (change change' : Telemetry.Journal → Telemetry.Journal) :
    (modify (·.updateJournal change) : EditorM PUnit).Parallel
      (modify (·.updateJournal change')) :=
  parallel_modify fun _ _ tells => tells.journal change change'

end Composition

/-! ## What only works -/

/-- What a computation does does not depend on what has been told. -/
abbrev Oblivious (work : EditorM α) : Prop :=
  work.Parallel work

theorem oblivious_modify {change : Editor → Editor}
    (step : ∀ editor journal events, (change editor).Tells
      (change { editor with journal, events })) : (modify change : EditorM PUnit).Oblivious :=
  parallel_modify fun editor _ ⟨journal, events, same⟩ => same ▸ step editor journal events

theorem oblivious_modifySession (change : Session → Session) : (modifySession change).Oblivious :=
  oblivious_modify fun _ journal events => ⟨journal, events, rfl⟩

theorem parallel_answerRefusal (refusal : Refusal) :
    (answerRefusal refusal).Parallel (answerRefusal refusal) :=
  .bind (oblivious_modifySession _) fun _ => .bind (parallel_emit _ _) fun _ =>
    .bind (parallel_journal _ _) fun _ => .get fun _ _ _ => parallel_pure _

theorem Parallel.answeringRefusals {work other : EditorM Reply} (parallel : work.Parallel other) :
    (answeringRefusals work).Parallel (answeringRefusals other) := by
  intro editor editor' tells
  have inner := parallel editor editor' tells
  rw [runOn_answeringRefusals, runOn_answeringRefusals]
  revert inner
  generalize work.runOn editor = run
  generalize other.runOn editor' = run'
  intro inner
  cases inner with
  | result result tells => exact .result result tells
  | fault fault tells =>
      cases fault with
      | refusal refusal => exact parallel_answerRefusal refusal _ _ tells
      | _ => exact .fault _ tells

theorem oblivious_modifyBuffer (change : Buffer → Except Fault Buffer) :
    (modifyBuffer change).Oblivious :=
  .get fun _ journal events => .bind (parallel_lift _) fun _ =>
    parallel_set ⟨journal, events, rfl⟩

theorem oblivious_setCurrent (line : Int) : (setCurrent line).Oblivious :=
  oblivious_modifyBuffer _

theorem oblivious_editBuffer (label : String) (hasEffect : Bool)
    (change : Buffer → Except Fault Buffer) : (editBuffer label hasEffect change).Oblivious :=
  .get fun _ _ _ => .bind (oblivious_modifyBuffer change) fun _ =>
    .ite (parallel_modify fun _ _ tells => tells.journal _ _) (parallel_pure _)

theorem oblivious_resolveAddress (token : String) : (resolveAddress token).Oblivious :=
  .get fun _ _ _ => .bind (oblivious_modifySession _) fun _ => parallel_lift _

/-! ## Handlers -/

section Handlers

variable (invocation : Invocation)

theorem oblivious_visitLines : (visitLines invocation).Oblivious :=
  .get fun _ _ _ => .bind (parallel_lift _) fun _ => .bind (oblivious_setCurrent _) fun _ =>
    parallel_pure _

/-- The lines that are visited may be shown in any way. -/
theorem oblivious_shownLines (shown : List String → Reply) :
    (visitLines invocation >>= fun lines => pure (shown lines) : EditorM Reply).Oblivious :=
  .bind (oblivious_visitLines invocation) fun _ => parallel_pure _

theorem oblivious_showError : showError.Oblivious :=
  .get fun _ _ _ => parallel_pure _

theorem oblivious_toggleVerbose : toggleVerbose.Oblivious :=
  .bind (oblivious_modifySession _) fun _ => oblivious_showError

theorem oblivious_togglePrompt : togglePrompt.Oblivious :=
  .bind (oblivious_modifySession _) fun _ => parallel_pure _

theorem oblivious_setMark : (setMark invocation).Oblivious := by
  rw [setMark]
  split
  · exact .bind (oblivious_modifySession _) fun _ => parallel_pure _
  · exact parallel_throw _

theorem oblivious_showFileName : showFileName.Oblivious :=
  .get fun _ _ _ => parallel_pure _

theorem oblivious_quit : quit.Oblivious :=
  .get fun _ _ _ => .ite (.bind (oblivious_modifySession _) fun _ => parallel_pure _)
    (.bind (oblivious_modifySession _) fun _ => parallel_throw _)

theorem oblivious_quitUnconditionally : quitUnconditionally.Oblivious :=
  .bind (oblivious_modifySession _) fun _ => parallel_pure _

theorem oblivious_executeCommand (command : String) : (executeCommand command).Oblivious := by
  refine .get fun editor journal events => ?_
  dsimp only
  exact .bind (parallel_set ⟨journal, events, rfl⟩) fun _ => parallel_lift _

theorem oblivious_runShell : (runShell invocation).Oblivious := by
  rw [runShell]
  refine .when (parallel_throw _) fun _ => ?_
  exact .bind ((oblivious_executeCommand _).span _ _) fun _ => parallel_pure _

theorem oblivious_fileText (path : String) : (fileText path).Oblivious :=
  .get fun _ _ _ => parallel_lift _

theorem oblivious_readFile : (readFile invocation).Oblivious := by
  rw [readFile]
  refine .when (parallel_throw _) fun _ => ?_
  exact .bind ((oblivious_fileText _).refusingFiles _) fun _ =>
    .bind (oblivious_modifyBuffer _) fun _ => parallel_pure _

theorem oblivious_saveJob (path? : Option String) : (saveJob path?).Oblivious := by
  refine .get fun editor journal events => ?_
  dsimp only
  split
  · exact parallel_pure _
  · exact parallel_throw _
  · exact parallel_throw _

theorem oblivious_writeBytes (path : String) (bytes : ByteArray) :
    (writeBytes path bytes).Oblivious :=
  .get fun _ journal events => .bind (parallel_lift _) fun _ =>
    parallel_set ⟨journal, events, rfl⟩

theorem oblivious_saveBuffer (path? : Option String) : (saveBuffer path?).Oblivious :=
  .bind (oblivious_saveJob path?) fun _ => .get fun _ _ _ =>
    .bind ((oblivious_writeBytes _ _).span _ _) fun _ =>
      .bind (oblivious_modifyBuffer _) fun _ => parallel_pure _

theorem oblivious_writeFile : (writeFile invocation).Oblivious :=
  .bind ((oblivious_saveBuffer _).refusingFiles _) fun _ => parallel_pure _

theorem oblivious_openText (after : Int) : (openText after).Oblivious :=
  .get fun _ _ _ => .bind (oblivious_modifySession _) fun _ => parallel_pure _

theorem oblivious_changeLines : (changeLines invocation).Oblivious :=
  .bind (oblivious_modifyBuffer _) fun _ => oblivious_openText _

theorem oblivious_deleteLines : (deleteLines invocation).Oblivious :=
  .bind (oblivious_modifyBuffer _) fun _ => parallel_pure _

theorem oblivious_joinLines : (joinLines invocation).Oblivious :=
  .get fun _ _ _ => .bind (parallel_lift _) fun _ =>
    .when (oblivious_modifyBuffer _) fun _ => parallel_pure _

theorem oblivious_destination (args : String) : (destination args).Oblivious :=
  .bind (oblivious_resolveAddress _) fun _ => .get fun _ _ _ =>
    .when (parallel_throw _) fun _ => parallel_pure _

theorem oblivious_moveLines : (moveLines invocation).Oblivious :=
  .bind (oblivious_destination _) fun _ => .when (parallel_throw _) fun _ => .get fun _ _ _ =>
    .when (oblivious_modifyBuffer _) fun _ => parallel_pure _

theorem oblivious_copyLines : (copyLines invocation).Oblivious :=
  .bind (oblivious_destination _) fun _ => .get fun _ _ _ =>
    .when (oblivious_modifyBuffer _) fun _ => parallel_pure _

theorem oblivious_substitute : (substitute invocation).Oblivious := by
  refine .get fun _ _ _ => .bind (parallel_lift _) fun _ => .bind (parallel_lift _) fun _ => ?_
  split
  · exact parallel_throw _
  · exact .bind (oblivious_modifyBuffer _) fun _ => .bind (oblivious_setCurrent _) fun _ =>
      .bind (oblivious_modifySession _) fun _ => parallel_pure _

theorem oblivious_builtin (handler : Builtin) : (handler.run invocation).Oblivious := by
  cases handler with
  | lineNumber => exact parallel_pure _
  | runShell => exact oblivious_runShell invocation
  | appendText => exact oblivious_openText _
  | changeLines => exact oblivious_changeLines invocation
  | deleteLines => exact oblivious_deleteLines invocation
  | showFileName => exact oblivious_showFileName
  | showError => exact oblivious_showError
  | toggleVerbose => exact oblivious_toggleVerbose
  | insertText => exact oblivious_openText _
  | joinLines => exact oblivious_joinLines invocation
  | setMark => exact oblivious_setMark invocation
  | listLines => exact oblivious_shownLines invocation _
  | moveLines => exact oblivious_moveLines invocation
  | numberLines => exact oblivious_shownLines invocation _
  | printLines => exact oblivious_shownLines invocation _
  | togglePrompt => exact oblivious_togglePrompt
  | quit => exact oblivious_quit
  | quitUnconditionally => exact oblivious_quitUnconditionally
  | readFile => exact oblivious_readFile invocation
  | substitute => exact oblivious_substitute invocation
  | copyLines => exact oblivious_copyLines invocation
  | undo => exact .bind (oblivious_modifyBuffer _) fun _ => parallel_pure _
  | writeFile => exact oblivious_writeFile invocation
  | comment => exact parallel_pure _

theorem oblivious_step (reply : Reply) (step : ScriptStep) :
    (step.run invocation reply).Oblivious := by
  cases step with
  | delete => exact .bind (oblivious_editBuffer _ _ _) fun _ => parallel_pure _
  | deleteRange start finish =>
      exact .bind (oblivious_editBuffer _ _ _) fun _ => parallel_pure _
  | insert after lines => exact .bind (oblivious_editBuffer _ _ _) fun _ => parallel_pure _
  | setCurrent line => exact .bind (oblivious_setCurrent _) fun _ => parallel_pure _
  | setSearch text? => exact .bind (oblivious_modifySession _) fun _ => parallel_pure _
  | fail fault => exact parallel_throw fault
  | echo => exact parallel_pure _
  | reply newReply => exact parallel_pure _
  | noReply => exact parallel_pure _

theorem oblivious_steps (steps : List ScriptStep) : ∀ reply : Reply,
    (steps.foldlM (ScriptStep.run invocation) reply).Oblivious := by
  induction steps with
  | nil => exact fun reply => parallel_pure reply
  | cons step rest ih =>
      intro reply
      rw [List.foldlM_cons]
      exact .bind (oblivious_step invocation reply step) ih

theorem oblivious_handler (handler : Handler) : (handler.run invocation).Oblivious := by
  cases handler with
  | builtin own => exact oblivious_builtin invocation own
  | scripted name steps => exact oblivious_steps invocation steps {}

end Handlers

/-! ## Dispatching -/

theorem oblivious_resolveToken (token : String) : (resolveToken token).Oblivious :=
  .ite (parallel_pure _) (.bind (oblivious_resolveAddress token) fun _ => parallel_pure _)

theorem oblivious_navigate (line : CommandLine) (start? finish? : Option Nat) :
    (navigate line start? finish?).Oblivious :=
  .get fun _ _ _ => .bind (parallel_lift _) fun _ => .bind (oblivious_setCurrent _) fun _ =>
    .get fun _ _ _ => .bind (parallel_lift _) fun _ => parallel_pure _

theorem oblivious_call (spec : CommandSpec) (invocation : Invocation) :
    (call spec invocation).Oblivious :=
  (oblivious_handler invocation spec.handler).span _ _

theorem oblivious_invoke (spec : CommandSpec) (invocation : Invocation) :
    (invoke spec invocation).Oblivious :=
  .ite ((oblivious_call spec invocation).transaction _ _) (oblivious_call spec invocation)

theorem oblivious_dispatch (line : CommandLine) : (dispatch line).Oblivious := by
  refine .bind (oblivious_resolveToken _) fun _ => .bind (oblivious_resolveToken _) fun _ =>
    .get fun editor journal events => .bind (parallel_lift _) fun _ => ?_
  dsimp only
  split
  · exact oblivious_navigate _ _ _
  · exact .bind (parallel_lift _) fun _ => oblivious_invoke _ _

/-- Lines that are scanned alike are handled alike. -/
theorem parallel_handleCommand {text text' : String}
    (alike : CommandLine.scan text = CommandLine.scan text') :
    (handleCommand text).Parallel (handleCommand text') := by
  rw [handleCommand, handleCommand, alike]
  exact .bind (parallel_emit _ _) fun _ => (oblivious_dispatch _).restoringSearch.span _ _

/-! ## Switching and submitting -/

theorem oblivious_closePending : closePending.Oblivious :=
  parallel_modify fun editor _ ⟨journal, events, same⟩ => by
    subst same
    dsimp only
    split
    · exact Editor.Tells.leaveTransaction ⟨journal, events, rfl⟩ true
    · exact ⟨journal, events, rfl⟩

theorem oblivious_endText : endText.Oblivious :=
  .bind oblivious_closePending fun _ => .get fun _ _ _ =>
    .bind (parallel_journal _ _) fun _ => parallel_emit _ _

theorem oblivious_beginText : beginText.Oblivious :=
  .bind (oblivious_modify fun _ journal events => ⟨journal, events, rfl⟩) fun _ =>
    .get fun _ _ _ => parallel_emit _ _

theorem oblivious_enterMode (modeClass : ModeClass) : (enterMode modeClass).Oblivious := by
  cases modeClass with
  | text => exact oblivious_beginText
  | _ => exact parallel_pure _

theorem oblivious_leaveMode (modeClass : ModeClass) : (leaveMode modeClass).Oblivious := by
  cases modeClass with
  | text => exact oblivious_endText
  | _ => exact parallel_pure _

theorem oblivious_switchMode (name : String) : (switchMode name).Oblivious := by
  refine .bind (parallel_lift _) fun target => .get fun editor journal events => ?_
  dsimp only
  split
  · exact parallel_throw _
  · rename_i targetClass registered
    have arrival : (do
        modifySession fun session => { session with mode := target }
        enterMode targetClass
        modify (·.updateJournal (·.event "mode.switch" [("mode", name)])) :
          EditorM Unit).Oblivious :=
      .bind (oblivious_modifySession _) fun _ => .bind (oblivious_enterMode targetClass) fun _ =>
        parallel_journal _ _
    refine .get fun editor journal events => .ite ?_ (parallel_pure _)
    refine .get fun editor journal events => ?_
    have active : ({ editor with journal, events } : Editor).activeMode? = editor.activeMode? := rfl
    rw [active]
    split
    · exact .bind (oblivious_leaveMode _) fun _ => arrival
    · exact arrival

theorem oblivious_endSession (status : String) : (endSession status).Oblivious :=
  .bind (oblivious_modifySession _) fun _ => .bind (parallel_emit _ _) fun _ =>
    parallel_journal _ _

theorem oblivious_conclude (reply : Reply) : (conclude reply).Oblivious := by
  have shown : (if reply.ended then do
        endSession reply.status
        return { kind := .ended, lines := reply.output }
      else if reply.status = "error" then return { kind := .error, lines := reply.output }
      else if reply.output.isEmpty then return { kind := .none }
      else return { kind := .text, lines := reply.output } : EditorM Output).Oblivious :=
    .ite (.bind (oblivious_endSession _) fun _ => parallel_pure _)
      (.ite (parallel_pure _) (.ite (parallel_pure _) (parallel_pure _)))
  rw [conclude]
  split
  · exact .bind (oblivious_switchMode _) fun _ => shown
  · exact shown

/-- **Lines that the active mode handles alike are answered alike**, whatever has been told. -/
theorem sameOutcome_submit {editor editor' : Editor} (tells : editor.Tells editor')
    {raw raw' : String}
    (alike : ∀ modeClass, editor.activeMode? = some modeClass →
      (handleLine modeClass (withoutLineEnd raw)).Parallel
        (handleLine modeClass (withoutLineEnd raw'))) :
    SameOutcome ((submit raw).runOn editor) ((submit raw').runOn editor') := by
  obtain ⟨journal, events, rfl⟩ := tells
  have tells : editor.Tells { editor with journal, events } := ⟨journal, events, rfl⟩
  have active : ({ editor with journal, events } : Editor).activeMode? = editor.activeMode? := rfl
  rw [submit, submit, runOn_bind, runOn_bind, runOn_get, runOn_get]
  dsimp only
  rw [active]
  split
  · exact parallel_pure _ _ _ tells
  · split
    · exact parallel_throw _ _ _ tells
    · rename_i modeClass found
      exact Parallel.bind (((alike modeClass found).span _ _).answeringRefusals)
        (fun reply => oblivious_conclude reply) _ _ tells

end EditorM

end LineEditor

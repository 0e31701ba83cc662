import LineEditor.Proofs.Editor.Logging
import LineEditor.Proofs.Editor.Submitting

/-!
# The trace of a line

A computation records a trace (`EditorM.Records`): its spans are entered and left
around what is done inside of them, and for each the trace says which fault the
computation inside ended in.  All else that it tells the log is plain.  The trace
is all that is told (`EditorM.Records.logs`).

Every line that is submitted to an editor with its own commands records a trace,
also if it is refused or if a fault escapes, and no key is put on the context of
the log twice in it (`EditorM.traced_submit`): one key stands for the mode, one
for the letter, two for the lines, and one for what is run or saved.
-/

set_option autoImplicit false

namespace LineEditor

open Telemetry (Call Journal Span SpanRequest Trace)

namespace EditorM

open Editor (Told)

/-- What a computation tells the log from an editor on: plain calls, and spans around what is done
inside of them, with the faults that pass through them. -/
inductive Records : {α : Type} → EditorM α → Editor → Trace → Prop
  | plain {α : Type} {work : EditorM α} {editor : Editor} {calls : List Call}
      (plain : ∀ call ∈ calls, call.IsPlain) (told : editor.Logs calls (work.runOn editor).2) :
      Records work editor (.ofCalls calls plain)
  | bind {α β : Type} {first : EditorM β} {next : β → EditorM α} {editor middle : Editor}
      {result : β} {front back : Trace} (succeeds : first.runOn editor = (.ok result, middle))
      (head : Records first editor front) (rest : Records (next result) middle back) :
      Records (first >>= next) editor (front ++ back)
  | stop {α β : Type} {first : EditorM β} {next : β → EditorM α} {editor middle : Editor}
      {fault : Fault} {trace : Trace} (fails : first.runOn editor = (.error fault, middle))
      (head : Records first editor trace) : Records (first >>= next) editor trace
  | span {α : Type} {work : EditorM α} {editor : Editor} {request : SpanRequest} {made : List Call}
      {inside : Trace} (plain : ∀ call ∈ made, call.IsPlain)
      (prepared : Journal.Adds made editor.journal
        (editor.journal.logger (request.loggerName?.getD editor.journal.defaultName)).2)
      (body : Records work { editor with journal := (editor.journal.enter request).2 } inside) :
      Records (EditorM.span request work) editor
        (.ofCalls made plain ++ .within (editor.journal.enter request).1 inside
          (faultOf? (work.runOn { editor with journal := (editor.journal.enter request).2 }).1) .done)
  | transaction {α : Type} {work : EditorM α} {editor : Editor} {label : String}
      {keepOpen : α → Bool} {trace : Trace} {calls : List Call}
      (plain : ∀ call ∈ calls, call.IsPlain)
      (body : Records work (editor.enterTransaction label) trace)
      (left : (work.runOn (editor.enterTransaction label)).2.Logs calls
        ((transaction label keepOpen work).runOn editor).2) :
      Records (EditorM.transaction label keepOpen work) editor (trace ++ .ofCalls calls plain)
  | restoringSearch {α : Type} {work : EditorM α} {editor : Editor} {trace : Trace}
      (body : Records work editor trace) : Records (EditorM.restoringSearch work) editor trace
  | refusingFiles {α : Type} {work : EditorM α} {editor : Editor} {cause : FileCause} {trace : Trace}
      (body : Records work editor trace) : Records (EditorM.refusingFiles cause work) editor trace
  | answeringRefusals {work : EditorM Reply} {editor : Editor} {trace : Trace} {calls : List Call}
      (plain : ∀ call ∈ calls, call.IsPlain) (body : Records work editor trace)
      (answered : (work.runOn editor).2.Logs calls ((answeringRefusals work).runOn editor).2) :
      Records (EditorM.answeringRefusals work) editor (trace ++ .ofCalls calls plain)

variable {α β : Type}

theorem journal_restoringSearch (work : EditorM α) (editor : Editor) :
    ((restoringSearch work).runOn editor).2.journal = (work.runOn editor).2.journal := by
  rw [runOn_restoringSearch]
  split
  · rename_i run
    rw [run]
    rfl
  · rfl

theorem journal_refusingFiles (cause : FileCause) (work : EditorM α) (editor : Editor) :
    ((refusingFiles cause work).runOn editor).2.journal = (work.runOn editor).2.journal := by
  rw [runOn_refusingFiles]
  split
  · rename_i run
    rw [run]
  · rfl

/-- **The trace of a computation is all that it tells the log.** -/
theorem Records.logs {work : EditorM α} {editor : Editor} {trace : Trace}
    (records : Records work editor trace) : editor.Logs trace.calls (work.runOn editor).2 := by
  induction records with
  | plain plain told =>
      rw [Trace.calls_ofCalls]
      exact told
  | bind succeeds head rest tellsHead tellsRest =>
      rw [succeeds] at tellsHead
      rw [runOn_bind, succeeds, Trace.calls_append]
      exact tellsHead.trans tellsRest
  | stop fails head tellsHead =>
      rw [fails] at tellsHead
      rw [runOn_bind, fails]
      exact tellsHead
  | @span _ work editor request made inside plain prepared body tellsInside =>
      have opened : editor.Logs (made ++ (editor.journal.enter request).1.opening)
          { editor with journal := (editor.journal.enter request).2 } :=
        prepared.trans (Journal.adds_record _ _)
      rw [runOn_span, Trace.calls_append, Trace.calls_ofCalls, Trace.calls, Trace.calls,
        List.append_nil, List.append_assoc, ← List.append_assoc made]
      exact opened.trans (tellsInside.trans (Journal.adds_record _ _))
  | transaction plain body left tellsBody =>
      rw [Trace.calls_append, Trace.calls_ofCalls]
      exact Editor.Logs.trans tellsBody left
  | restoringSearch body tellsBody =>
      rw [Editor.Logs, journal_restoringSearch]
      exact tellsBody
  | refusingFiles body tellsBody =>
      rw [Editor.Logs, journal_refusingFiles]
      exact tellsBody
  | answeringRefusals plain body answered tellsBody =>
      rw [Trace.calls_append, Trace.calls_ofCalls]
      exact tellsBody.trans answered

/-! ## Traces whose keys are distinct -/

/-- A computation records a trace, and of the keys that are listed each is put on the context of the
log at most once, in their order, and no others are. -/
def Traced (keys : List String) (work : EditorM α) (editor : Editor) : Prop :=
  ∃ trace, Records work editor trace ∧
    trace.keys.Sublist (keys.map (editor.journal.defaultName, ·))

section Rules

variable {editor : Editor} {work : EditorM α} {keys front back : List String}

theorem traced_plain (steps : work.Steps (Told Call.IsPlain)) (keys : List String) :
    Traced keys work editor := by
  obtain ⟨calls, plain, told⟩ := steps.related_run editor
  refine ⟨_, .plain plain told, ?_⟩
  rw [Trace.keys_ofCalls]
  exact List.nil_sublist _

theorem Traced.bind {first : EditorM β} {next : β → EditorM α} (head : Traced front first editor)
    (rest : first.Ensures editor (fun result middle => Traced back (next result) middle)
      (fun _ _ => True)) :
    Traced (front ++ back) (first >>= next) editor := by
  obtain ⟨traceFront, recordsFront, keysFront⟩ := head
  rw [Traced, List.map_append]
  cases run : first.runOn editor with
  | mk outcome middle =>
      cases outcome with
      | ok result =>
          obtain ⟨traceBack, recordsBack, keysBack⟩ := rest.result run
          have sameName := recordsFront.logs.2
          rw [run] at sameName
          rw [sameName] at keysBack
          refine ⟨_, .bind run recordsFront recordsBack, ?_⟩
          rw [Trace.keys_append]
          exact keysFront.append keysBack
      | error fault =>
          exact ⟨_, .stop run recordsFront,
            keysFront.trans (List.sublist_append_left _ _)⟩

/-- More keys may be listed. -/
theorem Traced.more (traced : Traced front work editor) (included : front.Sublist back) :
    Traced back work editor := by
  obtain ⟨trace, records, within⟩ := traced
  exact ⟨trace, records, within.trans (included.map _)⟩

/-- What is traced behind a plain step is traced together with it. -/
theorem Traced.after {first : EditorM β} {next : β → EditorM α}
    (steps : first.Steps (Told Call.IsPlain))
    (rest : first.Ensures editor (fun result middle => Traced keys (next result) middle)
      (fun _ _ => True)) :
    Traced keys (first >>= next) editor :=
  Traced.bind (traced_plain steps []) rest

/-- What is traced in front of plain steps is traced together with them. -/
theorem Traced.before {first : EditorM β} {next : β → EditorM α}
    (head : Traced keys first editor) (steps : ∀ result, (next result).Steps (Told Call.IsPlain)) :
    Traced keys (first >>= next) editor := by
  have rest : first.Ensures editor (fun result middle => Traced [] (next result) middle)
      (fun _ _ => True) :=
    .of_forall (fun result _ => traced_plain (steps result) []) fun _ _ => trivial
  have traced := head.bind rest
  rwa [List.append_nil] at traced

/-- The metadata of a span are put on the context around those of the spans inside of it. -/
theorem Traced.span {request : SpanRequest} (own : request.loggerName? = none)
    (body : Traced keys work { editor with journal := (editor.journal.enter request).2 }) :
    Traced (request.metadata.map (·.1) ++ keys) (EditorM.span request work) editor := by
  obtain ⟨inside, records, within⟩ := body
  obtain ⟨named, made, isMade, adds⟩ := editor.journal.logger_made
    (request.loggerName?.getD editor.journal.defaultName)
  have plain : ∀ call ∈ made, call.IsPlain := by
    intro call member
    rw [isMade call member]
    exact trivial
  refine ⟨_, .span plain adds records, ?_⟩
  have keys : (editor.journal.enter request).1.keys =
      (request.metadata.map (·.1)).map (editor.journal.defaultName, ·) := by
    have default : (editor.journal.enter request).1.logger.name = editor.journal.defaultName := by
      rw [own] at named
      simp only [Journal.enter, SpanRequest.toSpan, own]
      exact named
    rw [Telemetry.Span.keys, default, List.map_map]
    rfl
  rw [Trace.keys_append, Trace.keys_ofCalls, Trace.keys, Trace.keys, keys, List.append_nil,
    List.nil_append, List.map_append]
  have same : (editor.journal.enter request).2.defaultName = editor.journal.defaultName := adds.2
  rw [same] at within
  exact (List.Sublist.refl _).append within

theorem Traced.transaction {label : String} {keepOpen : α → Bool}
    (body : Traced keys work (editor.enterTransaction label)) :
    Traced keys (EditorM.transaction label keepOpen work) editor := by
  obtain ⟨trace, records, within⟩ := body
  have left : ((work.runOn (editor.enterTransaction label)).2).Told Call.IsPlain
      ((EditorM.transaction label keepOpen work).runOn editor).2 := by
    rw [runOn_transaction]
    generalize work.runOn (editor.enterTransaction label) = run
    obtain ⟨outcome, inner⟩ := run
    cases outcome with
    | ok result =>
        dsimp only
        split
        · exact .of_same rfl
        · exact inner.told_leaveTransaction true
    | error fault => exact inner.told_leaveTransaction false
  obtain ⟨calls, plain, told⟩ := left
  refine ⟨_, .transaction plain records told, ?_⟩
  rwa [Trace.keys_append, Trace.keys_ofCalls, List.append_nil]

theorem Traced.restoringSearch (body : Traced keys work editor) :
    Traced keys (EditorM.restoringSearch work) editor := by
  obtain ⟨trace, records, within⟩ := body
  exact ⟨trace, .restoringSearch records, within⟩

theorem Traced.refusingFiles {cause : FileCause} (body : Traced keys work editor) :
    Traced keys (EditorM.refusingFiles cause work) editor := by
  obtain ⟨trace, records, within⟩ := body
  exact ⟨trace, .refusingFiles records, within⟩

theorem Traced.answeringRefusals {work : EditorM Reply} (body : Traced keys work editor) :
    Traced keys (EditorM.answeringRefusals work) editor := by
  obtain ⟨trace, records, within⟩ := body
  have answered : ((work.runOn editor).2).Told Call.IsPlain
      ((EditorM.answeringRefusals work).runOn editor).2 := by
    rw [runOn_answeringRefusals]
    split
    · rename_i refusal inner run
      rw [run]
      exact ((told_answerRefusal refusal).related_run inner).mono fun _ ordinary => ordinary.plain
    · exact .of_same rfl
  obtain ⟨calls, plain, told⟩ := answered
  refine ⟨_, .answeringRefusals plain records told, ?_⟩
  rwa [Trace.keys_append, Trace.keys_ofCalls, List.append_nil]

end Rules

/-! ## Lines -/

variable {editor : Editor} {spec : CommandSpec} {invocation : Invocation}

theorem traced_runShell : Traced ["command"] (runShell invocation) editor := by
  rw [runShell]
  split
  · exact Traced.after (keeps_throw _) ((ensures_throw _).mpr trivial)
  · exact Traced.before (Traced.span rfl (traced_plain (told_executeCommand _) [])) fun _ =>
      steps_pure _

theorem traced_writeFile : Traced ["buffer"] (writeFile invocation) editor := by
  have saved : ∀ path?, Traced ["buffer"] (saveBuffer path?) editor := by
    refine fun path? => Traced.after (told_saveJob path?) (.of_forall ?_ fun _ _ => trivial)
    intro job middle
    refine Traced.after steps_get (.of_forall ?_ fun _ _ => trivial)
    exact fun _ _ => Traced.before (Traced.span rfl (traced_plain (told_writeBytes _ _) [])) fun _ =>
      .bind (told_modifyBuffer _) fun _ => steps_pure _
  exact Traced.before (saved _).refusingFiles fun _ => steps_pure _

/-- A handler of the editor's own puts one key on the context at most. -/
theorem traced_builtin (handler : Builtin) :
    Traced ["command", "buffer"] (handler.run invocation) editor := by
  by_cases spans : handler ∈ spanning
  · simp only [spanning, List.mem_cons, List.not_mem_nil, or_false] at spans
    rcases spans with rfl | rfl
    · exact traced_runShell.more (by decide)
    · exact traced_writeFile.more (by decide)
  · exact traced_plain (told_builtin invocation handler spans) _

theorem traced_call (own : spec ∈ Registry.ownCommands) :
    Traced ["start", "end", "command", "buffer"] (call spec invocation) editor := by
  obtain ⟨handler, isBuiltin⟩ := Registry.own_builtin own
  rw [call, isBuiltin]
  exact Traced.span rfl (traced_builtin handler)

theorem traced_dispatch (text : String) (registry : editor.registry = Registry.own) :
    Traced ["start", "end", "command", "buffer"] (dispatch (CommandLine.scan text)) editor := by
  rw [dispatch_eq]
  refine Traced.after (told_plan _) ((ensures_plan_bound text editor).mono ?_ fun _ _ _ => trivial)
  rintro request middle ⟨-, bound, -⟩
  cases request with
  | visit first? last? => exact traced_plain (told_navigate _ first? last?) _
  | invoke spec invocation =>
      have bound : (CommandLine.scan text).letter?.bind Registry.own.find? = some spec := by
        rw [← registry]
        exact bound
      obtain ⟨letter, -, found⟩ := Option.bind_eq_some_iff.mp bound
      obtain ⟨own, -⟩ := Registry.find?_own found
      rw [carryOut, invoke]
      split
      · exact (traced_call own).transaction
      · exact traced_call own

theorem traced_handleCommand (text : String) (registry : editor.registry = Registry.own) :
    Traced ["letter", "start", "end", "command", "buffer"] (handleCommand text) editor := by
  refine Traced.after ((steps_modify fun editor => editor.told_emit _).told_mono
    fun _ ordinary => ordinary.plain) (ensures_emit.mpr ?_)
  refine Traced.span rfl (traced_dispatch text ?_).restoringSearch
  obtain ⟨journal, told⟩ := editor.emit_eq (.commandSubmitted text)
  rw [told]
  exact registry

/-- **Every line records a trace, and no key is put on the context twice.** -/
theorem traced_submit (raw : String) (registry : editor.registry = Registry.own)
    (modes : editor.BothModes) :
    Traced ["mode", "letter", "start", "end", "command", "buffer"] (submit raw) editor := by
  refine Traced.after steps_get (ensures_get.mpr ?_)
  split
  · exact traced_plain (steps_pure _) _
  · cases mode : editor.session.mode with
    | command =>
        rw [modes.active_command mode]
        refine Traced.before (Traced.answeringRefusals ?_) told_conclude
        exact Traced.span rfl (traced_handleCommand _ registry)
    | text =>
        rw [modes.active_text mode]
        refine Traced.before (Traced.answeringRefusals ?_) told_conclude
        exact Traced.span rfl (traced_plain (.ite told_finishText (told_enterLine _)) _)

end EditorM

end LineEditor

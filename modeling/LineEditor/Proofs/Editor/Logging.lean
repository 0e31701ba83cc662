import LineEditor.Proofs.Editor.Candor
import LineEditor.Proofs.Telemetry.Traces

/-!
# What the parts of a line tell the log

The log only grows, so what a step does to it is the calls that it adds
(`Editor.Logs`).  Most steps of a line add none, and so do the handlers of the
editor's own commands but the one that runs the shell and the one that writes a
file (`EditorM.told_builtin`).

What is told outside of spans is plain: loggers are made, and messages are logged
that are no errors.  The ends of transactions are reported by messages of their
own (`Telemetry.Call.isReport`), and nothing else is such a report, neither the
other messages nor the two ends of a span.
-/

set_option autoImplicit false

namespace LineEditor

namespace Telemetry

/-- How the reports begin that say how a transaction ended. -/
def reportText : String := "event::buffer."

/-- A call that says how a transaction ended. -/
def Call.isReport : Call → Bool
  | .message _ _ text _ => reportText.toList.isPrefixOf text.toList
  | _ => false

/-- A call that is no report. -/
def Call.IsQuiet (call : Call) : Prop :=
  call.isReport = false

/-- A plain call that is no report. -/
structure Call.IsOrdinary (call : Call) : Prop where
  plain : call.IsPlain
  quiet : call.IsQuiet

/-- Quiet calls hold no reports. -/
theorem filter_isReport_of_quiet {calls : List Call} (quiet : ∀ call ∈ calls, call.IsQuiet) :
    calls.filter Call.isReport = [] :=
  List.filter_eq_nil_iff.mpr fun call member => by rw [quiet call member]; decide

theorem Call.isMessage_of_isReport {call : Call} (report : call.isReport = true) :
    call.isMessage = true := by
  cases call with
  | message _ _ _ _ => rfl
  | _ => cases report

/-- A text that begins otherwise than a report. -/
def BeginsOtherwise (text : String) : Prop :=
  ¬reportText.toList <+: text.toList ∧ ¬text.toList <+: reportText.toList

instance (text : String) : Decidable (BeginsOtherwise text) :=
  inferInstanceAs (Decidable (_ ∧ _))

theorem Call.quiet_message {logger text : String} (otherwise : BeginsOtherwise text) (level : Level)
    (rest : String) (fields? : Option Fields) :
    (Call.message logger level (text ++ rest) fields?).IsQuiet := by
  rw [IsQuiet, isReport, ← Bool.not_eq_true, List.isPrefixOf_iff_prefix, String.toList_append]
  intro report
  rcases List.prefix_or_prefix_of_prefix report (List.prefix_append _ _) with begins | begins
  · exact otherwise.1 begins
  · exact otherwise.2 begins

/-- A message below an error is plain, and ordinary if it begins otherwise than a report. -/
theorem Logger.log_plain (logger : Logger) {level : Level} (noError : level ≠ .error) (text : String)
    (fields : Fields) : (logger.log level text fields).IsPlain := by
  obtain ⟨rest, fields?, message⟩ := logger.log_eq level text fields
  rw [message]
  exact noError

theorem Logger.log_quiet (logger : Logger) (level : Level) {text : String}
    (otherwise : BeginsOtherwise text) (fields : Fields) :
    (logger.log level text fields).IsQuiet := by
  obtain ⟨rest, fields?, message⟩ := logger.log_eq level text fields
  rw [message]
  exact Call.quiet_message otherwise level rest fields?

/-- The two ends of a span are no reports. -/
theorem Span.quiet (span : Span) :
    (∀ call ∈ span.opening, call.IsQuiet) ∧
      ∀ metadata fault?, ∀ call ∈ span.closingWith metadata fault?, call.IsQuiet := by
  have silent : ∀ call : Call, call.isMessage = false → call.IsQuiet := by
    intro call silent
    rw [Call.IsQuiet, ← Bool.not_eq_true]
    intro report
    rw [Call.isMessage_of_isReport report] at silent
    cases silent
  refine ⟨fun call member => silent call (span.not_message.1 call member), ?_⟩
  intro metadata fault? call member
  cases fault? with
  | none => exact silent call (span.not_message.2 call member)
  | some fault =>
      rcases List.mem_append.mp member with failing | closing
      · split at failing
        · cases failing
        · obtain rfl := List.mem_singleton.mp failing
          exact span.logger.log_quiet .error (by decide +kernel) _
      · exact silent call (span.not_message.2 call closing)

namespace Journal

variable (journal : Journal)

/-- Some calls have been added to a journal, and the default logger has the same name. -/
def Adds (calls : List Call) (before after : Journal) : Prop :=
  after.calls.toList = before.calls.toList ++ calls ∧ after.defaultName = before.defaultName

theorem Adds.refl : Adds [] journal journal :=
  ⟨(List.append_nil _).symm, rfl⟩

theorem Adds.trans {front back : List Call} {before middle after : Journal}
    (earlier : Adds front before middle) (later : Adds back middle after) :
    Adds (front ++ back) before after :=
  ⟨by rw [later.1, earlier.1, List.append_assoc], later.2.trans earlier.2⟩

theorem adds_record (calls : List Call) : Adds calls journal (journal.record calls) :=
  ⟨by simp [record], rfl⟩

/-- Fetching a logger makes it if it has not been made. -/
theorem logger_made (name : String) :
    (journal.logger name).1.name = name ∧
      ∃ made, (∀ call ∈ made, call = .logger name) ∧ Adds made journal (journal.logger name).2 := by
  rw [logger]
  split
  · rename_i found
    exact ⟨by simpa using List.find?_some found, [], by simp, .refl journal⟩
  · exact ⟨rfl, [.logger name], by simp, adds_record { journal with loggers := _ } _⟩

/-- A message is told by its logger, which may have to be made. -/
theorem message_told (name : String) (level : Level) (text : String) (fields : Fields) :
    ∃ made, ∃ logger : Logger, (∀ call ∈ made, call = .logger name) ∧ logger.name = name ∧
      Adds (made ++ [logger.log level text fields]) journal
        (journal.message name level text fields) := by
  obtain ⟨named, made, isMade, adds⟩ := journal.logger_made name
  exact ⟨made, (journal.logger name).1, isMade, named, adds.trans (adds_record _ _)⟩

end Journal

end Telemetry

open Telemetry (Call Level Fields Journal Logger BeginsOtherwise)

/-! ## What the log is told -/

namespace Editor

variable {allowed : Call → Prop} {before middle after : Editor}

/-- Some calls have been told to the log. -/
def Logs (calls : List Call) (before after : Editor) : Prop :=
  Journal.Adds calls before.journal after.journal

theorem Logs.trans {front back : List Call} (earlier : before.Logs front middle)
    (later : middle.Logs back after) : before.Logs (front ++ back) after :=
  Journal.Adds.trans earlier later

/-- Nothing but what is allowed has been told to the log. -/
def Told (allowed : Call → Prop) (before after : Editor) : Prop :=
  ∃ calls, (∀ call ∈ calls, allowed call) ∧ before.Logs calls after

theorem Told.of_same (same : after.journal = before.journal) : before.Told allowed after :=
  ⟨[], by simp, by rw [Logs, same]; exact .refl _⟩

theorem Told.mono {others : Call → Prop} (told : before.Told allowed after)
    (more : ∀ call, allowed call → others call) : before.Told others after := by
  obtain ⟨calls, all, tells⟩ := told
  exact ⟨calls, fun call member => more call (all call member), tells⟩

instance (allowed : Call → Prop) : Stepwise (Told allowed) where
  refl _ := .of_same rfl
  trans earlier later := by
    obtain ⟨front, allFront, earlier⟩ := earlier
    obtain ⟨back, allBack, later⟩ := later
    exact ⟨front ++ back, List.forall_mem_append.mpr ⟨allFront, allBack⟩, earlier.trans later⟩

/-- Logging a message comes to its logger, which may have to be made, and to the message. -/
theorem told_logged (editor : Editor) {name : String} {level : Level} {text : String}
    {fields : Fields} (making : allowed (.logger name))
    (logging : ∀ logger : Logger, allowed (logger.log level text fields)) :
    editor.Told allowed (editor.updateJournal (·.message name level text fields)) := by
  obtain ⟨made, logger, isMade, -, adds⟩ := editor.journal.message_told name level text fields
  refine ⟨_, List.forall_mem_append.mpr ⟨fun call member => ?_, fun call member => ?_⟩, adds⟩
  · rw [isMade call member]
    exact making
  · obtain rfl := List.mem_singleton.mp member
    exact logging logger

/-- A message below an error that begins otherwise than a report. -/
theorem told_message (editor : Editor) {name : String} {level : Level} {text : String}
    (noError : level ≠ .error) (otherwise : BeginsOtherwise text) (fields : Fields) :
    editor.Told Call.IsOrdinary (editor.updateJournal (·.message name level text fields)) :=
  editor.told_logged ⟨trivial, rfl⟩ fun logger =>
    ⟨logger.log_plain noError text fields, logger.log_quiet level otherwise fields⟩

theorem told_emit (editor : Editor) (event : Event) :
    editor.Told Call.IsOrdinary (editor.emit event) := by
  rw [emit]
  split
  · exact told_message { editor with events := _ } (by decide) (by decide +kernel) _
  · exact .of_same rfl

/-- The end of a transaction is reported by plain calls. -/
theorem told_reportTransaction (editor : Editor) (outcome label : String) :
    editor.Told Call.IsPlain (editor.reportTransaction outcome label) :=
  editor.told_logged trivial fun logger => logger.log_plain (by decide) _ _

theorem told_leaveTransaction (editor : Editor) (succeeded : Bool) :
    editor.Told Call.IsPlain (editor.leaveTransaction succeeded) := by
  simp only [leaveTransaction]
  split
  · exact told_reportTransaction { editor with buffer := _ } _ _
  · exact .of_same rfl

/-- The two ends of a span are quiet. -/
theorem told_enter (editor : Editor) (request : Telemetry.SpanRequest) :
    editor.Told Call.IsQuiet { editor with journal := (editor.journal.enter request).2 } := by
  obtain ⟨-, made, isMade, adds⟩ := editor.journal.logger_made
    (request.loggerName?.getD editor.journal.defaultName)
  refine ⟨made ++ (editor.journal.enter request).1.opening, ?_,
    adds.trans (Journal.adds_record _ _)⟩
  refine List.forall_mem_append.mpr ⟨fun call member => ?_, (Telemetry.Span.quiet _).1⟩
  rw [isMade call member]
  exact rfl

theorem told_leave (editor : Editor) (span : Telemetry.Span) (fault? : Option Fault) :
    editor.Told Call.IsQuiet (editor.updateJournal (·.leave span fault?)) :=
  ⟨_, span.quiet.2 span.metadata fault?, editor.journal.adds_record _⟩

end Editor

namespace EditorM

open Editor (Told)

variable {α : Type} {allowed : Call → Prop}

/-- What keeps to a relation keeps to any wider one. -/
theorem Keeps.told_mono {others : Call → Prop} {accepts : α → Prop} {work : EditorM α}
    (keeps : work.Keeps (Told allowed) accepts) (more : ∀ call, allowed call → others call) :
    work.Keeps (Told others) accepts :=
  fun editor => (keeps editor).mono (fun _ _ told => ⟨told.1.mono more, told.2⟩)
    (fun _ _ told => told.mono more)

/-- A span is quiet if what is done inside of it is. -/
theorem Keeps.quiet_span {accepts : α → Prop} {work : EditorM α}
    (keeps : work.Keeps (Told Call.IsQuiet) accepts) (request : Telemetry.SpanRequest) :
    (EditorM.span request work).Keeps (Told Call.IsQuiet) accepts :=
  keeps.span_between (fun editor => editor.told_enter request)
    fun editor span fault? => editor.told_leave span fault?

/-! ## Steps that tell the log nothing -/

theorem told_modifySession (change : Session → Session) :
    (modifySession change).Steps (Told allowed) :=
  steps_modify fun _ => .of_same rfl

theorem told_modifyBuffer (change : Buffer → Except Fault Buffer) :
    (modifyBuffer change).Steps (Told allowed) := by
  intro editor
  rw [ensures_modifyBuffer]
  exact ⟨fun _ _ => ⟨.of_same rfl, trivial⟩, fun _ _ => Editor.Stepwise.refl editor⟩

theorem told_resolveAddress (token : String) : (resolveAddress token).Steps (Told allowed) :=
  .bind steps_get fun _ => .bind (told_modifySession _) fun _ => steps_lift _

theorem told_resolveToken (token : String) : (resolveToken token).Steps (Told allowed) := by
  rw [resolveToken]
  exact .ite (steps_pure _) (.bind (told_resolveAddress token) fun _ => steps_pure _)

/-- Planning a line tells the log nothing. -/
theorem told_plan (line : CommandLine) : (plan line).Steps (Told allowed) := by
  have bound : ∀ lines, (bindRequest line lines).Steps (Told allowed) := by
    refine fun lines => .bind steps_get fun editor => ?_
    split
    · exact steps_pure _
    · exact .bind (steps_lift _) fun _ => steps_pure _
  exact .bind (.bind (told_resolveToken _) fun _ => .bind (told_resolveToken _) fun _ =>
    .bind steps_get fun _ => steps_lift _) bound

theorem told_navigate (line : CommandLine) (first? last? : Option Nat) :
    (navigate line first? last?).Steps (Told allowed) :=
  .bind steps_get fun _ => .bind (steps_lift _) fun _ => .bind (told_modifyBuffer _) fun _ =>
    .bind steps_get fun _ => .bind (steps_lift _) fun _ => steps_pure _

theorem told_finishText : finishText.Steps (Told allowed) :=
  .bind steps_get fun _ => .bind (told_modifyBuffer _) fun _ => steps_pure _

/-! ## Handlers -/

/-- The handlers that make a span of their own. -/
def spanning : List Builtin :=
  [.runShell, .writeFile]

section Handlers

variable (invocation : Invocation)

theorem told_visitLines : (visitLines invocation).Steps (Told allowed) :=
  .bind steps_get fun _ => .bind (steps_lift _) fun _ => .bind (told_modifyBuffer _) fun _ =>
    steps_pure _

theorem told_openText (after : Int) : (openText after).Steps (Told allowed) :=
  .bind steps_get fun _ => .bind (told_modifySession _) fun _ => steps_pure _

theorem told_destination (args : String) : (destination args).Steps (Told allowed) :=
  .bind (told_resolveAddress _) fun _ => .bind steps_get fun _ => .when (keeps_throw _) fun _ =>
    steps_pure _

theorem told_showError : showError.Steps (Told allowed) :=
  .bind steps_get fun _ => steps_pure _

theorem told_setMark : (setMark invocation).Steps (Told allowed) := by
  rw [setMark]
  split
  · exact .bind (told_modifySession _) fun _ => steps_pure _
  · exact keeps_throw _

theorem told_readFile : (readFile invocation).Steps (Told allowed) := by
  have read : ∀ path, (fileText path).Steps (Told allowed) :=
    fun _ => .bind steps_get fun _ => steps_lift _
  rw [readFile]
  exact .when (keeps_throw _) fun _ => .bind ((read _).refusingFiles _) fun _ =>
    .bind (told_modifyBuffer _) fun _ => steps_pure _

theorem told_substitute : (substitute invocation).Steps (Told allowed) := by
  refine .bind steps_get fun _ => .bind (steps_lift _) fun _ => .bind (steps_lift _) fun _ => ?_
  split
  · exact keeps_throw _
  · exact .bind (told_modifyBuffer _) fun _ => .bind (told_modifyBuffer _) fun _ =>
      .bind (told_modifySession _) fun _ => steps_pure _

theorem told_quit : quit.Steps (Told allowed) :=
  .bind steps_get fun _ => .ite (.bind (told_modifySession _) fun _ => steps_pure _)
    (.bind (told_modifySession _) fun _ => keeps_throw _)

/-- **The editor's own handlers tell the log nothing**, but for those that make a span of their
own. -/
theorem told_builtin (handler : Builtin) (others : handler ∉ spanning) :
    (handler.run invocation).Steps (Told allowed) := by
  cases handler with
  | lineNumber => exact steps_pure _
  | runShell => exact absurd (by decide) others
  | appendText => exact told_openText _
  | changeLines => exact .bind (told_modifyBuffer _) fun _ => told_openText _
  | deleteLines => exact .bind (told_modifyBuffer _) fun _ => steps_pure _
  | showFileName => exact .bind steps_get fun _ => steps_pure _
  | showError => exact told_showError
  | toggleVerbose => exact .bind (told_modifySession _) fun _ => told_showError
  | insertText => exact told_openText _
  | joinLines =>
      exact .bind steps_get fun _ => .bind (steps_lift _) fun _ =>
        .when (told_modifyBuffer _) fun _ => steps_pure _
  | setMark => exact told_setMark invocation
  | listLines => exact .bind (told_visitLines invocation) fun _ => steps_pure _
  | moveLines =>
      exact .bind (told_destination _) fun _ => .when (keeps_throw _) fun _ =>
        .bind steps_get fun _ => .when (told_modifyBuffer _) fun _ => steps_pure _
  | numberLines => exact .bind (told_visitLines invocation) fun _ => steps_pure _
  | printLines => exact .bind (told_visitLines invocation) fun _ => steps_pure _
  | togglePrompt => exact .bind (told_modifySession _) fun _ => steps_pure _
  | quit => exact told_quit
  | quitUnconditionally => exact .bind (told_modifySession _) fun _ => steps_pure _
  | readFile => exact told_readFile invocation
  | substitute => exact told_substitute invocation
  | copyLines =>
      exact .bind (told_destination _) fun _ => .bind steps_get fun _ =>
        .when (told_modifyBuffer _) fun _ => steps_pure _
  | undo => exact .bind (told_modifyBuffer _) fun _ => steps_pure _
  | writeFile => exact absurd (by decide) others
  | comment => exact steps_pure _

theorem told_executeCommand (command : String) : (executeCommand command).Steps (Told allowed) := by
  intro editor
  simp only [executeCommand, ensures_bind, ensures_get, ensures_lift, ensures_set]
  exact ⟨fun _ _ => ⟨.of_same rfl, trivial⟩, fun _ _ => .of_same rfl⟩

theorem told_saveJob (path? : Option String) : (saveJob path?).Steps (Told allowed) := by
  refine .bind steps_get fun editor => ?_
  split
  · exact steps_pure _
  · exact keeps_throw _
  · exact keeps_throw _

theorem told_writeBytes (path : String) (bytes : ByteArray) :
    (writeBytes path bytes).Steps (Told allowed) := by
  intro editor
  simp only [writeBytes, ensures_bind, ensures_get, ensures_lift, ensures_set]
  exact ⟨fun _ _ => ⟨.of_same rfl, trivial⟩, fun _ _ => Editor.Stepwise.refl editor⟩

/-- None of the editor's own handlers reports the end of a transaction. -/
theorem quiet_builtin (handler : Builtin) :
    (handler.run invocation).Steps (Told Call.IsQuiet) := by
  cases handler with
  | runShell =>
      show (runShell invocation).Steps _
      rw [runShell]
      exact .when (keeps_throw _) fun _ =>
        .bind (Keeps.quiet_span (told_executeCommand _) _) fun _ => steps_pure _
  | writeFile =>
      exact .bind (Keeps.refusingFiles (.bind (told_saveJob _) fun _ => .bind steps_get fun _ =>
        .bind (Keeps.quiet_span (told_writeBytes _ _) _) fun _ => .bind (told_modifyBuffer _)
          fun _ => steps_pure _) _) fun _ => steps_pure _
  | _ => exact told_builtin invocation _ (by decide)

end Handlers

/-! ## Around the handlers -/

theorem told_answerRefusal (refusal : Refusal) :
    (answerRefusal refusal).Steps (Told Call.IsOrdinary) :=
  .bind (told_modifySession _) fun _ => .bind (steps_modify fun editor => editor.told_emit _)
    fun _ => .bind (steps_modify fun editor =>
      editor.told_message (by decide) (by decide +kernel) _) fun _ => .bind steps_get fun _ =>
        steps_pure _

theorem told_endSession (status : String) : (endSession status).Steps (Told Call.IsOrdinary) :=
  .bind (told_modifySession _) fun _ => .bind (steps_modify fun editor => editor.told_emit _)
    fun _ => steps_modify fun editor => editor.told_message (by decide) (by decide +kernel) _

/-- An edit is reported by plain calls, if at all. -/
theorem told_enterLine (line : String) : (enterLine line).Steps (Told Call.IsPlain) := by
  have inserted : ∀ after lines, (insertLines after lines).Steps (Told Call.IsPlain) :=
    fun _ _ => .bind steps_get fun _ => .bind (told_modifyBuffer _) fun _ =>
      .ite (steps_modify fun editor => editor.told_reportTransaction _ _) (steps_pure _)
  exact .bind steps_get fun _ => .bind (inserted _ _) fun _ => .bind (told_modifySession _) fun _ =>
    .bind (steps_modify fun _ => .of_same rfl) fun _ => .bind steps_get fun _ =>
      .bind (told_modifyBuffer _) fun _ => steps_pure _

theorem switching_plain : Switching (Told Call.IsPlain) where
  emitted editor event := (editor.told_emit event).mono fun _ ordinary => ordinary.plain
  counted _ _ := .of_same rfl
  closed editor _ := ({ editor with pending := false } : Editor).told_leaveTransaction true
  switched _ _ := .of_same rfl
  noted editor _ := (editor.told_message (by decide) (by decide +kernel) _).mono
    fun _ ordinary => ordinary.plain
  announced editor _ := (editor.told_message (by decide) (by decide +kernel) _).mono
    fun _ ordinary => ordinary.plain

/-- Whatever concludes a line tells the log plain calls. -/
theorem told_conclude (reply : Reply) : (conclude reply).Steps (Told Call.IsPlain) :=
  steps_conclude (fun name _ => switching_plain.steps_switchMode name) fun _ =>
    (told_endSession _).told_mono fun _ ordinary => ordinary.plain

end EditorM

end LineEditor

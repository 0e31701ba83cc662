import LineEditor.Proofs.Editor.Submitting
import LineEditor.Proofs.Faults

/-!
# What can go wrong in a command

A computation is foreseen if it keeps the remembered patterns patterns, and if
whatever goes wrong in it is a refusal, the misuse of a buffer, or of a kind that
is named (`EditorM.Foreseen`).  There is one rule for each way in which
computations are built.

Of the editor's own commands, those that resolve addresses or read patterns can
be troubled by their arguments, and those that use files or the shell by what
files and the shell have against them (`Builtin.Troubles`).  No other command
can be troubled by anything (`EditorM.foreseen_builtin`).
-/

set_option autoImplicit false

namespace LineEditor

/-- An editor reads patterns with an engine, for which all patterns that it remembers are
patterns. -/
def Editor.Readable (editor : Editor) (engine : Pattern.Engine) : Prop :=
  editor.platform.engine = engine ∧ editor.session.Readable engine

/-- Where the same patterns are remembered, they are patterns still. -/
theorem Editor.Readable.of_same {engine : Pattern.Engine} {before after : Editor}
    (readable : before.Readable engine) (kept : before.Kept after)
    (search : after.session.lastSearch? = before.session.lastSearch?)
    (substitution : after.session.lastSubstitution? = before.session.lastSubstitution?) :
    after.Readable engine := by
  refine ⟨kept.platform ▸ readable.1, ?_, ?_⟩
  · rw [search]
    exact readable.2.search
  · rw [substitution]
    exact readable.2.substitution

namespace EditorM

variable {α β : Type} {engine : Pattern.Engine}

/-- From an editor whose remembered patterns are patterns, a computation keeps them patterns, and
it fails only as is known or in an extra way. -/
def Foreseen (engine : Pattern.Engine) (extra : Fault → Prop) (work : EditorM α) : Prop :=
  ∀ editor : Editor, editor.Readable engine → work.Ensures editor
    (fun _ after => after.Readable engine)
    (fun fault after => after.Readable engine ∧ (fault.IsKnown ∨ extra fault))

section Composition

variable {extra : Fault → Prop} {work : EditorM α}

theorem Foreseen.mono {other : Fault → Prop} (foreseen : work.Foreseen engine extra)
    (weaker : ∀ fault, extra fault → other fault) : work.Foreseen engine other :=
  fun editor readable => (foreseen editor readable).mono (fun _ _ kept => kept)
    (fun _ _ failed => ⟨failed.1, failed.2.imp_right (weaker _)⟩)

theorem foreseen_pure (result : α) : (pure result : EditorM α).Foreseen engine extra :=
  fun _ readable => (ensures_pure result).mpr readable

theorem foreseen_refuse (refusal : Refusal) : (refuse refusal : EditorM α).Foreseen engine extra :=
  fun _ readable => (ensures_refuse refusal).mpr ⟨readable, .inl (.inl rfl)⟩

theorem foreseen_get : (get : EditorM Editor).Foreseen engine extra :=
  fun _ readable => ensures_get.mpr readable

theorem foreseen_lift {outcome : Except Fault α}
    (fails : FailsOnly (fun fault => fault.IsKnown ∨ extra fault) outcome) :
    (liftM outcome : EditorM α).Foreseen engine extra :=
  fun _ readable => ensures_lift.mpr
    ⟨fun _ _ => readable, fun fault failed => ⟨readable, fails fault failed⟩⟩

/-- A step that can only be refused. -/
theorem foreseen_routine {outcome : Except Fault α}
    (fails : FailsOnly (fun fault => fault.isRoutine = true) outcome) :
    (liftM outcome : EditorM α).Foreseen engine extra :=
  foreseen_lift (fails.mono fun _ routine => .inl (.inl routine))

/-- A step that can only misuse the buffer. -/
theorem foreseen_misuse {outcome : Except Fault α} (fails : FailsOnly Fault.IsMisuse outcome) :
    (liftM outcome : EditorM α).Foreseen engine extra :=
  foreseen_lift (fails.mono fun _ misuse => .inl (.inr misuse))

theorem foreseen_modify {change : Editor → Editor}
    (keeps : ∀ editor : Editor, editor.Readable engine → (change editor).Readable engine) :
    (modify change : EditorM PUnit).Foreseen engine extra :=
  fun editor readable => ensures_modify.mpr (keeps editor readable)

theorem foreseen_modifySession {change : Session → Session}
    (keeps : ∀ session : Session, session.Readable engine → (change session).Readable engine) :
    (modifySession change).Foreseen engine extra :=
  foreseen_modify fun editor readable => ⟨readable.1, keeps editor.session readable.2⟩

theorem foreseen_modifyBuffer {change : Buffer → Except Fault Buffer}
    (fails : ∀ buffer, FailsOnly Fault.IsKnown (change buffer)) :
    (modifyBuffer change).Foreseen engine extra :=
  fun editor readable => ensures_modifyBuffer.mpr
    ⟨fun _ _ => readable, fun fault failed => ⟨readable, .inl (fails editor.buffer fault failed)⟩⟩

/-- A change of the buffer that can only misuse it. -/
theorem foreseen_change {change : Buffer → Except Fault Buffer}
    (fails : ∀ buffer, FailsOnly Fault.IsMisuse (change buffer)) :
    (modifyBuffer change).Foreseen engine extra :=
  foreseen_modifyBuffer fun buffer => (fails buffer).mono fun _ => .inr

theorem Foreseen.bind {first : EditorM β} {next : β → EditorM α}
    (heads : first.Foreseen engine extra)
    (rests : ∀ result, (next result).Foreseen engine extra) :
    (first >>= next).Foreseen engine extra := by
  intro editor readable
  rw [ensures_bind]
  exact (heads editor readable).mono (fun result middle kept => rests result middle kept)
    (fun _ _ failed => failed)

theorem Foreseen.ite {condition : Prop} [Decidable condition] {yes no : EditorM α}
    (whenTrue : yes.Foreseen engine extra) (whenFalse : no.Foreseen engine extra) :
    (if condition then yes else no).Foreseen engine extra := by
  split
  · exact whenTrue
  · exact whenFalse

/-- The first part of a sequence may be left out. -/
theorem Foreseen.when {condition : Prop} [Decidable condition] {first : EditorM PUnit}
    {next : PUnit → EditorM α} (heads : first.Foreseen engine extra)
    (rests : ∀ result, (next result).Foreseen engine extra) :
    (if condition then first >>= next else next ⟨⟩).Foreseen engine extra :=
  .ite (.bind heads rests) (rests ⟨⟩)

end Composition

/-! ## Steps -/

variable {extra : Fault → Prop}

theorem foreseen_setCurrent (line : Int) : (setCurrent line).Foreseen engine extra :=
  foreseen_change fun buffer => buffer.fails_setCurrent line

theorem foreseen_resolveAddress (token : String) :
    (resolveAddress token).Foreseen engine (Provoked engine token.toList) := by
  intro editor readable
  simp only [resolveAddress, ensures_bind, ensures_get, ensures_modifySession, ensures_lift]
  obtain ⟨rfl, remembered⟩ := readable
  have kept : Session.Readable editor.platform.engine
      { editor.session with
        lastSearch? := (Address.resolve editor.platform.engine editor.buffer editor.session.marks
          editor.session.lastSearch? token).2 } :=
    ⟨Address.isPattern_resolve remembered.search token, remembered.substitution⟩
  exact ⟨fun _ _ => ⟨rfl, kept⟩, fun fault failed =>
    ⟨⟨rfl, kept⟩, (Address.provoked_resolve remembered.search token fault failed).imp_left .inl⟩⟩

/-- The current line is always there to be addressed. -/
theorem foreseen_resolvePoint : (resolveAddress ".").Foreseen engine extra := by
  intro editor readable
  have point : Address.resolve editor.platform.engine editor.buffer editor.session.marks
      editor.session.lastSearch? "." =
        (.ok (editor.buffer.current + 0), editor.session.lastSearch?) := rfl
  simp only [resolveAddress, ensures_bind, ensures_get, ensures_modifySession, ensures_lift, point]
  exact ⟨fun _ _ => readable, fun fault failed => by cases failed⟩

end EditorM

/-! ## White space at the ends -/

/-- What is left of a text without the white space at its ends is part of it. -/
theorem Text.isInfix_strip (text : String) : (Text.strip text).toList <:+: text.toList := by
  rw [Text.strip, String.toList_ofList, Text.trim]
  refine List.IsInfix.trans ?_ (List.dropWhile_suffix Text.isBlank).isInfix
  rw [← List.reverse_infix, List.reverse_reverse]
  exact (List.dropWhile_suffix Text.isBlank).isInfix

/-! ## Handlers -/

namespace EditorM

section Handlers

variable {engine : Pattern.Engine} {extra : Fault → Prop} (invocation : Invocation)

theorem foreseen_visitLines : (visitLines invocation).Foreseen engine extra :=
  .bind foreseen_get fun editor => .bind (foreseen_misuse (editor.buffer.fails_readRange _ _))
    fun _ => .bind (foreseen_setCurrent _) fun _ => foreseen_pure _

/-- The lines that are visited may be shown in any way. -/
theorem foreseen_shownLines (shown : List String → Reply) :
    (visitLines invocation >>= fun lines => pure (shown lines) : EditorM Reply).Foreseen engine
      extra :=
  .bind (foreseen_visitLines invocation) fun _ => foreseen_pure _

theorem foreseen_showError : showError.Foreseen engine extra :=
  .bind foreseen_get fun _ => foreseen_pure _

theorem foreseen_toggleVerbose : toggleVerbose.Foreseen engine extra :=
  .bind (foreseen_modifySession fun _ kept => ⟨kept.search, kept.substitution⟩) fun _ =>
    foreseen_showError

theorem foreseen_togglePrompt : togglePrompt.Foreseen engine extra :=
  .bind (foreseen_modifySession fun _ kept => ⟨kept.search, kept.substitution⟩) fun _ =>
    foreseen_pure _

theorem foreseen_setMark : (setMark invocation).Foreseen engine extra := by
  rw [setMark]
  split
  · exact .bind (foreseen_modifySession fun _ kept => ⟨kept.search, kept.substitution⟩) fun _ =>
      foreseen_pure _
  · exact foreseen_refuse _

theorem foreseen_showFileName : showFileName.Foreseen engine extra :=
  .bind foreseen_get fun _ => foreseen_pure _

theorem foreseen_quit : quit.Foreseen engine extra :=
  .bind foreseen_get fun _ => .ite
    (.bind (foreseen_modifySession fun _ kept => ⟨kept.search, kept.substitution⟩) fun _ =>
      foreseen_pure _)
    (.bind (foreseen_modifySession fun _ kept => ⟨kept.search, kept.substitution⟩) fun _ =>
      foreseen_refuse _)

theorem foreseen_quitUnconditionally : quitUnconditionally.Foreseen engine extra :=
  .bind (foreseen_modifySession fun _ kept => ⟨kept.search, kept.substitution⟩) fun _ =>
    foreseen_pure _

theorem foreseen_openText (after : Int) : (openText after).Foreseen engine extra :=
  .bind foreseen_get fun _ =>
    .bind (foreseen_modifySession fun _ kept => ⟨kept.search, kept.substitution⟩) fun _ =>
      foreseen_pure _

theorem foreseen_changeLines : (changeLines invocation).Foreseen engine extra :=
  .bind (foreseen_change fun buffer => buffer.fails_removeRange _ _) fun _ => foreseen_openText _

theorem foreseen_deleteLines : (deleteLines invocation).Foreseen engine extra :=
  .bind (foreseen_change fun buffer => buffer.fails_removeLines _ _) fun _ => foreseen_pure _

theorem fails_joinStop (lineCount : Nat) :
    FailsOnly (fun fault => fault.isRoutine = true) (joinStop invocation lineCount) := by
  rw [joinStop]
  split
  · exact .ok _
  · split
    · exact .error rfl
    · exact .ok _

theorem foreseen_joinLines : (joinLines invocation).Foreseen engine extra :=
  .bind foreseen_get fun _ => .bind (foreseen_routine (fails_joinStop invocation _)) fun _ =>
    .when (foreseen_change fun buffer => buffer.fails_joinLines _ _) fun _ => foreseen_pure _

theorem foreseen_undo : undo.Foreseen engine extra := by
  refine .bind (foreseen_modifyBuffer fun buffer => ?_) fun _ => foreseen_pure _
  split
  · exact .ok _
  · exact .error (.inl rfl)

/-! ### Arguments that are addresses or patterns -/

theorem foreseen_destination (args : String) :
    (destination args).Foreseen engine (Provoked engine args.toList) := by
  refine .bind ?_ fun _ => .bind foreseen_get fun _ => .when (foreseen_refuse _) fun _ =>
    foreseen_pure _
  split
  · exact foreseen_resolvePoint
  · exact (foreseen_resolveAddress _).mono fun _ provoked =>
      provoked.mono (Text.isInfix_strip args)

theorem foreseen_moveLines :
    (moveLines invocation).Foreseen engine (Provoked engine invocation.args.toList) :=
  .bind (foreseen_destination _) fun _ => .when (foreseen_refuse _) fun _ =>
    .bind foreseen_get fun _ =>
      .when (foreseen_change fun buffer => buffer.fails_moveLines _ _ _) fun _ => foreseen_pure _

theorem foreseen_copyLines :
    (copyLines invocation).Foreseen engine (Provoked engine invocation.args.toList) :=
  .bind (foreseen_destination _) fun _ => .bind foreseen_get fun _ =>
    .when (foreseen_change fun buffer => buffer.fails_copyLines _ _ _) fun _ => foreseen_pure _

theorem fails_changes (replace : String → Except Pattern.PatternFault (String × Nat))
    (lines : List String) : ∀ number,
      FailsOnly (fun fault => fault.isRoutine = true)
        (Substitution.changes replace number lines) := by
  induction lines with
  | nil => exact fun _ => .ok []
  | cons line rest ih =>
      intro number
      rw [Substitution.changes]
      split
      · exact .error rfl
      · exact .bind (ih (number + 1)) fun _ _ => .ok _

/-- Substituting for a pattern is refused, or it misuses the buffer. -/
theorem fails_changesOf (editor : Editor) {substitution : Substitution}
    (isPattern : IsPattern editor.platform.engine substitution.pattern) :
    FailsOnly Fault.IsKnown (changesOf editor substitution invocation) := by
  obtain ⟨compiled, reads⟩ := isPattern
  rw [changesOf, reads]
  refine .bind (.ok compiled) fun _ _ => ?_
  refine .bind ((editor.buffer.fails_readRange _ _).mono fun _ => .inr) fun _ _ => ?_
  exact (fails_changes _ _ _).mono fun _ => .inl

theorem foreseen_substitute :
    (substitute invocation).Foreseen engine (Provoked engine invocation.args.toList) := by
  rintro editor ⟨rfl, remembered⟩
  rw [substitute, ensures_bind, ensures_get]
  dsimp only
  rw [ensures_bind, ensures_lift]
  constructor
  · intro substitution success
    have isPattern := Substitution.isPattern_read remembered _ success
    refine Foreseen.bind (foreseen_lift ?_) (fun changes => ?_) editor ⟨rfl, remembered⟩
    · exact (fails_changesOf invocation editor isPattern).mono fun _ => .inl
    · split
      · exact foreseen_refuse _
      · refine .bind (foreseen_change fun buffer => Buffer.fails_replaceLines _ buffer) fun _ =>
          .bind (foreseen_setCurrent _) fun _ => .bind (foreseen_modifySession ?_) fun _ =>
            foreseen_pure _
        rintro session kept
        constructor
        · rintro text ⟨⟩
          exact isPattern
        · rintro other ⟨⟩
          exact isPattern
  · intro fault failed
    exact ⟨⟨rfl, remembered⟩,
      (Substitution.provoked_read remembered _ fault failed).imp_left .inl⟩

/-! ### Files and the shell -/

section Outside

variable {editor : Editor} (readable : editor.Readable engine)
include readable

theorem readFile_fails :
    (readFile invocation).Ensures editor (fun _ after => after.Readable engine)
      (fun fault after => after.Readable engine ∧ (fault.IsKnown ∨
        FileTrouble Device.KeepsReader editor.disk (Text.strip invocation.args)
          editor.config.encoding fault)) := by
  simp only [readFile, fileText, ensures_bind, ensures_ite, ensures_refuse, ensures_refusingFiles,
    ensures_get, ensures_lift, ensures_modifyBuffer, ensures_pure]
  refine ⟨fun _ => ⟨readable, .inl (.inl rfl)⟩, fun _ => ⟨fun text _ => ⟨fun _ _ => readable, ?_⟩,
    fun fault failed => ⟨readable, ?_⟩⟩⟩
  · intro fault failed
    exact ⟨readable, .inl (.inr (editor.buffer.fails_insertText _ _ fault failed))⟩
  · split
    · exact .inl (.inl rfl)
    · rename_i other
      exact .inr ((Disk.fails_readText _ _ _ _ fault failed).resolve_left other)

omit readable in
theorem saveJob_fails (path? : Option String) :
    (saveJob path?).Ensures editor
      (fun job after => after = editor ∧ editor.buffer.target? path? = some job.target)
      (fun fault after => after = editor ∧ (fault.IsKnown ∨ isFileFault fault = true ∨
        ∃ target, editor.buffer.target? path? = some target ∧
          FileTrouble Device.KeepsWriter editor.disk target editor.buffer.encoding fault)) := by
  simp only [saveJob, ensures_bind, ensures_get]
  split
  · rename_i job prepared
    rw [ensures_pure]
    exact ⟨rfl, (Buffer.prepareSave_eq_ok_iff.mp prepared).1⟩
  · rw [ensures_refuse]
    exact ⟨rfl, .inl (.inl rfl)⟩
  · rename_i fault other prepared
    rw [ensures_throw]
    exact ⟨rfl, .inr ((Buffer.fails_prepareSave _ _ _ editor.disk _ prepared).resolve_left other)⟩

/-- Saving fails as files do, or there is trouble with the file that is meant. -/
theorem saveBuffer_fails (path? : Option String) :
    (saveBuffer path?).Ensures editor (fun _ after => after.Readable engine)
      (fun fault after => after.Readable engine ∧ (fault.IsKnown ∨ isFileFault fault = true ∨
        ∃ target, editor.buffer.target? path? = some target ∧
          FileTrouble Device.KeepsWriter editor.disk target editor.buffer.encoding fault)) := by
  rw [saveBuffer, ensures_bind]
  refine (saveJob_fails path?).mono ?_ ?_
  · rintro job _ ⟨rfl, target⟩
    simp only [writeBytes, ensures_bind, ensures_get, ensures_span, ensures_lift, ensures_set,
      ensures_modifyBuffer, ensures_pure]
    refine ⟨fun disk _ => ⟨fun _ _ => readable, fun _ failed => by cases failed⟩, ?_⟩
    intro fault failed
    exact ⟨readable, .inr ((Disk.fails_write _ _ _ _ fault failed).imp_right
      fun trouble => ⟨job.target, target, trouble⟩)⟩
  · rintro fault _ ⟨rfl, causes⟩
    exact ⟨readable, causes⟩

theorem writeFile_fails :
    (writeFile invocation).Ensures editor (fun _ after => after.Readable engine)
      (fun fault after => after.Readable engine ∧ (fault.IsKnown ∨
        ∃ target, editor.buffer.target? (if (Text.strip invocation.args).isEmpty then none
            else some (Text.strip invocation.args)) = some target ∧
          FileTrouble Device.KeepsWriter editor.disk target editor.buffer.encoding fault)) := by
  simp only [writeFile, ensures_bind, ensures_refusingFiles, ensures_pure]
  refine (saveBuffer_fails readable _).mono (fun _ _ kept => kept) ?_
  rintro fault after ⟨kept, causes⟩
  refine ⟨kept, ?_⟩
  split
  · exact .inl (.inl rfl)
  · rename_i other
    exact causes.imp_right fun outside => outside.resolve_left other

theorem runShell_fails :
    (runShell invocation).Ensures editor (fun _ after => after.Readable engine)
      (fun fault after => after.Readable engine ∧ (fault.IsKnown ∨
        ShellTrouble editor.platform.shell editor.config editor.disk (Text.strip invocation.args)
          fault)) := by
  simp only [runShell, executeCommand, ensures_bind, ensures_span, ensures_get, ensures_lift,
    ensures_set, ensures_pure, ensures_ite, ensures_refuse]
  refine ⟨fun _ => ⟨readable, .inl (.inl rfl)⟩, fun _ => ⟨fun _ _ => readable, ?_⟩⟩
  intro fault failed
  exact ⟨readable, (Shell.fails_execute _ _ _ _ fault failed).imp_left .inl⟩

end Outside

end Handlers

end EditorM

/-! ## The editor's own commands -/

/-- What can trouble a command beside what it is given: the settings, what the editor stands on, and
where and how the buffer is kept. -/
structure Circumstances where
  config : Config
  platform : Platform
  disk : Disk
  path? : Option String
  encoding : String

/-- The circumstances of an editor. -/
def Editor.circumstances (editor : Editor) : Circumstances where
  config := editor.config
  platform := editor.platform
  disk := editor.disk
  path? := editor.buffer.path?
  encoding := editor.buffer.encoding

/-- What can trouble a handler of the editor's own, which is given arguments in some
circumstances. -/
inductive Builtin.Troubles (handler : Builtin) (around : Circumstances) (args : String) :
    Fault → Prop where
  | argument {fault : Fault} (reads : handler ∈ [.moveLines, .copyLines, .substitute])
      (provoked : Provoked around.platform.engine args.toList fault) :
      Troubles handler around args fault
  | source {fault : Fault} (reads : handler = .readFile)
      (trouble : FileTrouble Device.KeepsReader around.disk (Text.strip args) around.config.encoding
        fault) : Troubles handler around args fault
  | target {fault : Fault} {path : String} (writes : handler = .writeFile)
      (meant : path = Text.strip args ∨ Text.strip args = "" ∧ around.path? = some path)
      (trouble : FileTrouble Device.KeepsWriter around.disk path around.encoding fault) :
      Troubles handler around args fault
  | shell {fault : Fault} (runs : handler = .runShell)
      (trouble : ShellTrouble around.platform.shell around.config around.disk (Text.strip args)
        fault) : Troubles handler around args fault

/-- What is saved goes to the path that is given, or else to the buffer's own. -/
theorem Buffer.target?_cases {buffer : Buffer} {name target : String}
    (found : buffer.target? (if name.isEmpty then none else some name) = some target) :
    target = name ∨ name = "" ∧ buffer.path? = some target := by
  split at found
  · rename_i empty
    rw [target?, Option.filter_none, Option.none_or] at found
    exact .inr ⟨by simpa using empty, (Option.filter_eq_some_iff.mp found).1⟩
  · rename_i given
    rw [target?_given (by simpa using given)] at found
    exact .inl (Option.some.inj found).symm

namespace EditorM

/-- **A handler of the editor's own is refused, or it is troubled by something known.** -/
theorem foreseen_builtin (handler : Builtin) (invocation : Invocation) {editor : Editor}
    (readable : editor.Readable editor.platform.engine) :
    (handler.run invocation).Ensures editor (fun _ after => after.Readable editor.platform.engine)
      (fun fault after => after.Readable editor.platform.engine ∧ (fault.IsKnown ∨
        handler.Troubles editor.circumstances invocation.args fault)) := by
  cases handler with
  | lineNumber => exact foreseen_pure _ editor readable
  | appendText => exact foreseen_openText _ editor readable
  | changeLines => exact foreseen_changeLines invocation editor readable
  | deleteLines => exact foreseen_deleteLines invocation editor readable
  | showFileName => exact foreseen_showFileName editor readable
  | showError => exact foreseen_showError editor readable
  | toggleVerbose => exact foreseen_toggleVerbose editor readable
  | insertText => exact foreseen_openText _ editor readable
  | joinLines => exact foreseen_joinLines invocation editor readable
  | setMark => exact foreseen_setMark invocation editor readable
  | listLines => exact foreseen_shownLines invocation _ editor readable
  | numberLines => exact foreseen_shownLines invocation _ editor readable
  | printLines => exact foreseen_shownLines invocation _ editor readable
  | togglePrompt => exact foreseen_togglePrompt editor readable
  | quit => exact foreseen_quit editor readable
  | quitUnconditionally => exact foreseen_quitUnconditionally editor readable
  | undo => exact foreseen_undo editor readable
  | comment => exact foreseen_pure _ editor readable
  | moveLines =>
      refine (foreseen_moveLines invocation).mono ?_ editor readable
      exact fun _ provoked => .argument (by decide) provoked
  | copyLines =>
      refine (foreseen_copyLines invocation).mono ?_ editor readable
      exact fun _ provoked => .argument (by decide) provoked
  | substitute =>
      refine (foreseen_substitute invocation).mono ?_ editor readable
      exact fun _ provoked => .argument (by decide) provoked
  | readFile =>
      refine (readFile_fails invocation readable).mono (fun _ _ kept => kept) ?_
      exact fun fault after failed => ⟨failed.1, failed.2.imp_right (.source rfl)⟩
  | writeFile =>
      refine (writeFile_fails invocation readable).mono (fun _ _ kept => kept) ?_
      rintro fault after ⟨kept, known | ⟨target, found, trouble⟩⟩
      · exact ⟨kept, .inl known⟩
      · exact ⟨kept, .inr (.target rfl (Buffer.target?_cases found) trouble)⟩
  | runShell =>
      refine (runShell_fails invocation readable).mono (fun _ _ kept => kept) ?_
      exact fun fault after failed => ⟨failed.1, failed.2.imp_right (.shell rfl)⟩

end EditorM

end LineEditor

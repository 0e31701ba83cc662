import LineEditor.Proofs.Editor.Reporting

/-!
# The parts that commands touch

The state that outlives a line has parts (`Part`), and each of the editor's own
handlers touches only some of them (`Builtin.parts`).  Which ones is a table;
that no handler touches any other part, whether it succeeds or fails, is proved
handler by handler from the steps that it is made of
(`EditorM.untouched_builtin`).

A submitted command line touches the parts of the command that its letter is
bound to, and beside them only the remembered search, the last error and whether
the session has ended (`Editor.Equipped.untouched`).  Nothing is assumed of the
buffer.
-/

set_option autoImplicit false

namespace LineEditor

/-- A part of the state that outlives a line. -/
inductive Part where
  | lines
  | history
  | path
  | mode
  | lastError
  | verboseErrors
  | promptVisible
  | lastSearch
  | lastSubstitution
  | marks
  | quitState
  | insertAfter
  | ended
  | platform
  deriving DecidableEq

namespace Part

/-- A part is the same before and after. -/
def Same (part : Part) (before after : Editor) : Prop :=
  match part with
  | .lines => after.buffer.lines = before.buffer.lines
  | .history => after.buffer.history = before.buffer.history
  | .path => after.buffer.path? = before.buffer.path?
  | .mode => after.session.mode = before.session.mode
  | .lastError => after.session.lastError = before.session.lastError
  | .verboseErrors => after.session.verboseErrors = before.session.verboseErrors
  | .promptVisible => after.session.promptVisible = before.session.promptVisible
  | .lastSearch => after.session.lastSearch? = before.session.lastSearch?
  | .lastSubstitution => after.session.lastSubstitution? = before.session.lastSubstitution?
  | .marks => after.session.marks = before.session.marks
  | .quitState => after.session.quitState = before.session.quitState
  | .insertAfter => after.session.insertAfter = before.session.insertAfter
  | .ended => after.session.ended = before.session.ended
  | .platform => after.platform = before.platform

variable {part : Part} {before middle after : Editor}

theorem Same.refl (editor : Editor) : part.Same editor editor := by
  cases part <;> exact rfl

theorem Same.trans (earlier : part.Same before middle) (later : part.Same middle after) :
    part.Same before after := by
  cases part <;> exact Eq.trans later earlier

/-- Every part but the platform is in the buffer or in the session. -/
theorem Same.of_eq (buffer : after.buffer = before.buffer)
    (session : after.session = before.session) (platform : after.platform = before.platform) :
    part.Same before after := by
  cases part <;> simp only [Same, buffer, session, platform]

end Part

/-- The parts that a handler may touch. -/
def Builtin.parts : Builtin → List Part
  | .appendText | .insertText | .changeLines => [.lines, .history, .insertAfter, .mode]
  | .deleteLines | .joinLines | .readFile | .undo => [.lines, .history]
  | .moveLines | .copyLines => [.lines, .history, .lastSearch]
  | .substitute => [.lines, .history, .lastSubstitution, .lastSearch]
  | .setMark => [.marks]
  | .toggleVerbose => [.verboseErrors]
  | .togglePrompt => [.promptVisible]
  | .writeFile => [.path]
  | .quit | .quitUnconditionally => [.quitState]
  | .lineNumber | .runShell | .showFileName | .showError | .listLines | .numberLines | .printLines
  | .comment => []

namespace Editor

/-- Only the parts that are listed may have been touched. -/
def Untouched (touched : List Part) (before after : Editor) : Prop :=
  ∀ part, part ∉ touched → part.Same before after

instance (touched : List Part) : Unlogged (Untouched touched) where
  refl editor _ _ := .refl editor
  trans earlier later part other := (earlier part other).trans (later part other)
  logged _ _ _ _ := .of_eq rfl rfl rfl

variable {touched more : List Part} {before after : Editor}

theorem Untouched.of_eq (buffer : after.buffer = before.buffer)
    (session : after.session = before.session) (platform : after.platform = before.platform) :
    before.Untouched touched after :=
  fun _ _ => .of_eq buffer session platform

theorem Untouched.mono (untouched : before.Untouched touched after)
    (included : ∀ part ∈ touched, part ∈ more) : before.Untouched more after :=
  fun part other => untouched part fun member => other (included part member)

/-- The lines, the history and what else belongs to the buffer may differ, but not the path. -/
theorem Untouched.of_path (edits : .lines ∈ touched ∧ .history ∈ touched)
    (path : before.buffer.SamePath after.buffer) (session : after.session = before.session)
    (platform : after.platform = before.platform) : before.Untouched touched after := by
  intro part other
  cases part with
  | lines => exact absurd edits.1 other
  | history => exact absurd edits.2 other
  | path => exact path
  | platform => exact platform
  | _ => simp only [Part.Same, session]

theorem Sought.untouched (sought : before.Sought after) (searches : .lastSearch ∈ touched) :
    before.Untouched touched after := by
  obtain ⟨lastSearch?, journal, rfl⟩ := sought
  intro part other
  cases part with
  | lastSearch => exact absurd searches other
  | _ => exact rfl

end Editor

namespace EditorM

open Editor (Untouched)

section Steps

variable {touched : List Part}

/-! ## Steps -/

theorem untouched_modifySession {change : Session → Session}
    (others : ∀ (editor : Editor) (part : Part), part ∉ touched →
      part.Same editor (editor.updateSession change)) :
    (modifySession change).Steps (Untouched touched) :=
  steps_modify others

/-- Which line is the current one is no part of it. -/
theorem untouched_setCurrent (line : Int) : (setCurrent line).Steps (Untouched touched) := by
  intro editor
  rw [setCurrent, ensures_modifyBuffer]
  refine ⟨fun buffer success => ⟨?_, trivial⟩, fun _ _ => Editor.Stepwise.refl editor⟩
  rw [Buffer.setCurrent] at success
  split at success
  · cases success
  · cases success
    intro part _
    cases part <;> exact rfl

theorem untouched_edit (edits : .lines ∈ touched ∧ .history ∈ touched)
    {change : Buffer → Except Fault Buffer} (path : Buffer.Respects Buffer.SamePath change) :
    (modifyBuffer change).Steps (Untouched touched) := by
  intro editor
  rw [ensures_modifyBuffer]
  exact ⟨fun buffer success => ⟨.of_path edits (path _ _ success) rfl rfl, trivial⟩,
    fun _ _ => Editor.Stepwise.refl editor⟩

theorem untouched_resolveAddress (searches : .lastSearch ∈ touched) (token : String) :
    (resolveAddress token).Steps (Untouched touched) :=
  fun editor => (ensures_resolveAddress token editor).mono
    (fun _ _ sought => ⟨sought.untouched searches, trivial⟩)
    (fun _ _ failed => failed.1.untouched searches)

/-- However a transaction ends, it touches no more than the edits in it. -/
theorem Keeps.untouched_transaction {α : Type} {accepts : α → Prop} {work : EditorM α}
    (edits : .lines ∈ touched ∧ .history ∈ touched)
    (keeps : work.Keeps (Untouched touched) accepts) (label : String) (keepOpen : α → Bool) :
    (EditorM.transaction label keepOpen work).Keeps (Untouched touched) accepts := by
  intro editor
  have entered : editor.Untouched touched (editor.enterTransaction label) :=
    .of_path edits (editor.buffer.enter_path? label) rfl rfl
  have left : ∀ (inner : Editor) (succeeded : Bool),
      inner.Untouched touched (inner.leaveTransaction succeeded) := by
    intro inner succeeded
    obtain ⟨change, left⟩ := inner.leaveTransaction_eq succeeded
    rw [left]
    refine .of_path edits ?_ rfl rfl
    cases succeeded with
    | true => exact inner.buffer.commit_samePath
    | false => exact inner.buffer.rollback_samePath
  rw [ensures_transaction]
  refine (keeps (editor.enterTransaction label)).mono ?_ ?_
  · rintro result inner ⟨untouched, accepted⟩
    have reached := Editor.Stepwise.trans entered untouched
    refine ⟨?_, accepted⟩
    split
    · exact Editor.Stepwise.trans reached (.of_eq rfl rfl rfl)
    · exact Editor.Stepwise.trans reached (left inner true)
  · intro fault inner untouched
    exact Editor.Stepwise.trans (Editor.Stepwise.trans entered untouched) (left inner false)

/-! ## Handlers -/

variable (invocation : Invocation)

theorem untouched_visitLines : (visitLines invocation).Steps (Untouched touched) :=
  .bind steps_get fun _ => .bind (steps_lift _) fun _ => .bind (untouched_setCurrent _) fun _ =>
    steps_pure _

theorem untouched_navigate (line : CommandLine) (first? last? : Option Nat) :
    (navigate line first? last?).Steps (Untouched touched) :=
  .bind steps_get fun _ => .bind (steps_lift _) fun _ => .bind (untouched_setCurrent _) fun _ =>
    .bind steps_get fun _ => .bind (steps_lift _) fun _ => steps_pure _

theorem untouched_showError : showError.Steps (Untouched touched) :=
  .bind steps_get fun _ => steps_pure _

theorem untouched_openText (opens : .insertAfter ∈ touched) (after : Int) :
    (openText after).Steps (Untouched touched) := by
  refine .bind steps_get fun _ => .bind (untouched_modifySession ?_) fun _ => steps_pure _
  intro editor part other
  cases part with
  | insertAfter => exact absurd opens other
  | _ => exact rfl

theorem untouched_destination (searches : .lastSearch ∈ touched) (args : String) :
    (destination args).Steps (Untouched touched) :=
  .bind (untouched_resolveAddress searches _) fun _ => .bind steps_get fun _ =>
    .when (keeps_throw _) fun _ => steps_pure _

theorem untouched_runShell : (runShell invocation).Steps (Untouched touched) := by
  have executed : ∀ command, (executeCommand command).Steps (Untouched touched) := by
    intro command editor
    simp only [executeCommand, ensures_bind, ensures_get, ensures_lift, ensures_set]
    exact ⟨fun _ _ => ⟨.of_eq rfl rfl rfl, trivial⟩, fun _ _ => .of_eq rfl rfl rfl⟩
  rw [runShell]
  refine .when (keeps_throw _) fun _ => ?_
  exact .bind ((executed _).span _) fun _ => steps_pure _

theorem untouched_writeFile (places : .path ∈ touched) :
    (writeFile invocation).Steps (Untouched touched) := by
  have written : ∀ path bytes, (writeBytes path bytes).Steps (Untouched touched) := by
    intro path bytes editor
    simp only [writeBytes, ensures_bind, ensures_get, ensures_lift, ensures_set]
    exact ⟨fun _ _ => ⟨.of_eq rfl rfl rfl, trivial⟩, fun _ _ => Editor.Stepwise.refl editor⟩
  have marked : ∀ target, (modifyBuffer fun buffer => .ok (buffer.markSaved target)).Steps
      (Untouched touched) := by
    intro target editor
    rw [ensures_modifyBuffer]
    refine ⟨?_, fun _ _ => Editor.Stepwise.refl editor⟩
    rintro _ ⟨⟩
    refine ⟨?_, trivial⟩
    intro part other
    cases part with
    | path => exact absurd places other
    | _ => exact rfl
  have job : ∀ path?, (saveJob path?).Steps (Untouched touched) := by
    intro path?
    refine .bind steps_get fun editor => ?_
    split
    · exact steps_pure _
    · exact keeps_throw _
    · exact keeps_throw _
  exact .bind (Keeps.refusingFiles (.bind (job _) fun _ => .bind steps_get fun _ =>
    .bind ((written _ _).span _) fun _ => .bind (marked _) fun _ => steps_pure _) _) fun _ =>
      steps_pure _

theorem untouched_undo (edits : .lines ∈ touched ∧ .history ∈ touched) :
    undo.Steps (Untouched touched) := by
  refine .bind (untouched_edit edits ?_) fun _ => steps_pure _
  intro buffer after success
  dsimp only at success
  split at success
  · rename_i restored undone
    cases success
    exact Buffer.samePath_undo? undone
  · cases success

theorem untouched_substitute (edits : .lines ∈ touched ∧ .history ∈ touched)
    (repeats : .lastSubstitution ∈ touched ∧ .lastSearch ∈ touched) :
    (substitute invocation).Steps (Untouched touched) := by
  have remembered : ∀ substitution : Substitution, (modifySession fun session =>
      { session with
        lastSubstitution? := some substitution
        lastSearch? := some substitution.pattern }).Steps (Untouched touched) := by
    intro substitution
    refine untouched_modifySession ?_
    intro editor part other
    cases part with
    | lastSubstitution => exact absurd repeats.1 other
    | lastSearch => exact absurd repeats.2 other
    | _ => exact rfl
  refine .bind steps_get fun _ => .bind (steps_lift _) fun _ => .bind (steps_lift _) fun _ => ?_
  split
  · exact keeps_throw _
  · exact .bind (untouched_edit edits (Buffer.primitives_samePath.replaceLines _)) fun _ =>
      .bind (untouched_setCurrent _) fun _ => .bind (remembered _) fun _ => steps_pure _

/-- **The editor's own handlers touch no part but those of the table.** -/
theorem untouched_builtin (handler : Builtin) :
    (handler.run invocation).Steps (Untouched handler.parts) := by
  have edits := Buffer.primitives_samePath
  cases handler with
  | lineNumber => exact steps_pure _
  | runShell => exact untouched_runShell invocation
  | appendText => exact untouched_openText (by decide) _
  | changeLines =>
      exact .bind (untouched_edit (by decide) (edits.removeRange _ _)) fun _ =>
        untouched_openText (by decide) _
  | deleteLines =>
      exact .bind (untouched_edit (by decide) (edits.removeLines _ _)) fun _ => steps_pure _
  | showFileName => exact .bind steps_get fun _ => steps_pure _
  | showError => exact untouched_showError
  | toggleVerbose =>
      refine .bind (untouched_modifySession ?_) fun _ => untouched_showError
      intro editor part other
      cases part with
      | verboseErrors => exact absurd (by decide) other
      | _ => exact rfl
  | insertText => exact untouched_openText (by decide) _
  | joinLines =>
      exact .bind steps_get fun _ => .bind (steps_lift _) fun _ =>
        .when (untouched_edit (by decide) (edits.joinLines _ _)) fun _ => steps_pure _
  | setMark =>
      show (setMark invocation).Steps _
      rw [setMark]
      split
      · refine .bind (untouched_modifySession ?_) fun _ => steps_pure _
        intro editor part other
        cases part with
        | marks => exact absurd (by decide) other
        | _ => exact rfl
      · exact keeps_throw _
  | listLines => exact .bind (untouched_visitLines invocation) fun _ => steps_pure _
  | moveLines =>
      exact .bind (untouched_destination (by decide) _) fun _ => .when (keeps_throw _) fun _ =>
        .bind steps_get fun _ =>
          .when (untouched_edit (by decide) (edits.moveLines _ _ _)) fun _ => steps_pure _
  | numberLines => exact .bind (untouched_visitLines invocation) fun _ => steps_pure _
  | printLines => exact .bind (untouched_visitLines invocation) fun _ => steps_pure _
  | togglePrompt =>
      refine .bind (untouched_modifySession ?_) fun _ => steps_pure _
      intro editor part other
      cases part with
      | promptVisible => exact absurd (by decide) other
      | _ => exact rfl
  | quit =>
      have state : ∀ state, (modifySession fun session =>
          { session with quitState := state }).Steps (Untouched [.quitState]) := by
        intro state
        refine untouched_modifySession ?_
        intro editor part other
        cases part with
        | quitState => exact absurd (by decide) other
        | _ => exact rfl
      exact .bind steps_get fun _ => .ite (.bind (state .clean) fun _ => steps_pure _)
        (.bind (state .refusedOnce) fun _ => keeps_throw _)
  | quitUnconditionally =>
      refine .bind (untouched_modifySession ?_) fun _ => steps_pure _
      intro editor part other
      cases part with
      | quitState => exact absurd (by decide) other
      | _ => exact rfl
  | readFile =>
      have text : ∀ path, (fileText path).Steps (Untouched Builtin.readFile.parts) :=
        fun path => .bind steps_get fun _ => steps_lift _
      show (readFile invocation).Steps _
      rw [readFile]
      refine .when (keeps_throw _) fun _ => .bind ((text _).refusingFiles _) fun _ => ?_
      exact .bind (untouched_edit (by decide) (edits.insertText _ _)) fun _ => steps_pure _
  | substitute => exact untouched_substitute invocation (by decide) (by decide)
  | copyLines =>
      exact .bind (untouched_destination (by decide) _) fun _ => .bind steps_get fun _ =>
        .when (untouched_edit (by decide) (edits.copyLines _ _ _)) fun _ => steps_pure _
  | undo => exact untouched_undo (by decide)
  | writeFile => exact untouched_writeFile invocation (by decide)
  | comment => exact steps_pure _

end Steps

end EditorM

/-! ## Lines -/

/-- The parts that a command may touch. -/
def CommandSpec.parts (spec : CommandSpec) : List Part :=
  match spec.handler with
  | .builtin handler => handler.parts
  | .scripted _ _ => []

/-- The parts that a line may touch with the editor's own commands, beside those that any line
may. -/
def lineParts (raw : String) : List Part :=
  (((submittedLetter? raw).bind Registry.own.find?).map CommandSpec.parts).getD []

theorem lineParts_eq {raw : String} {spec : CommandSpec}
    (found : (submittedLetter? raw).bind Registry.own.find? = some spec) :
    lineParts raw = spec.parts := by
  rw [lineParts, found, Option.map_some, Option.getD_some]

/-- The parts that any command line may touch. -/
def commonParts : List Part := [.lastSearch, .lastError, .ended]

/-- A command that runs in a transaction may touch the lines and the history, and one that opens
text entry the mode. -/
theorem Registry.own_parts : ∀ spec ∈ Registry.ownCommands,
    (spec.mutates = true → .lines ∈ spec.parts ∧ .history ∈ spec.parts) ∧
    ∀ handler ∈ EditorM.opening, spec.handler = .builtin handler → .mode ∈ spec.parts := by
  decide

namespace EditorM

open Editor (Untouched)

variable {editor middle inner : Editor} {raw : String} {spec : CommandSpec}
  {invocation : Invocation} {touched : List Part}

theorem untouched_invoke (own : spec ∈ Registry.ownCommands) :
    (invoke spec invocation).Steps (Untouched spec.parts) := by
  obtain ⟨handler, isBuiltin⟩ := Registry.own_builtin own
  obtain ⟨edits, -⟩ := Registry.own_parts spec own
  have same : spec.parts = handler.parts := by rw [CommandSpec.parts, isBuiltin]
  rw [same] at edits ⊢
  have called : (call spec invocation).Steps (Untouched handler.parts) := by
    rw [call, isBuiltin]
    exact (untouched_builtin invocation handler).span _
  rw [invoke]
  split
  · rename_i mutates
    exact called.untouched_transaction (edits mutates) _ _
  · exact called

/-- Switching between the modes touches the mode and, at the end of a text, lines and history. -/
theorem switching_untouched (edits : .lines ∈ touched ∧ .history ∈ touched)
    (switches : .mode ∈ touched) : Switching (Untouched touched) where
  emitted editor event := by
    obtain ⟨journal, told⟩ := editor.emit_eq event
    rw [told]
    exact .of_eq rfl rfl rfl
  counted _ _ := .of_eq rfl rfl rfl
  closed editor _ := by
    obtain ⟨change, left⟩ := ({ editor with pending := false } : Editor).leaveTransaction_eq true
    rw [left]
    exact .of_path edits editor.buffer.commit_samePath rfl rfl
  switched _ _ := by
    intro part other
    cases part with
    | mode => exact absurd switches other
    | _ => exact rfl
  noted editor _ := Editor.Unlogged.logged editor _
  announced editor _ := Editor.Unlogged.logged editor _

/-- Concluding a reply touches whether the session has ended, and what switching touches if the
reply asks for another mode. -/
theorem untouched_conclude {reply : Reply} (ends : .ended ∈ touched)
    (switches : reply.switchTo? ≠ none →
      (.lines ∈ touched ∧ .history ∈ touched) ∧ .mode ∈ touched) :
    (conclude reply).Steps (Untouched touched) := by
  have ended : ∀ status, (endSession status).Steps (Untouched touched) := by
    intro status
    refine .bind (untouched_modifySession ?_) fun _ => .bind (steps_modify ?_) fun _ =>
      steps_modify fun _ => .of_eq rfl rfl rfl
    · intro editor part other
      cases part with
      | ended => exact absurd ends other
      | _ => exact rfl
    · intro editor
      obtain ⟨journal, told⟩ := editor.emit_eq .sessionEnded
      rw [told]
      exact .of_eq rfl rfl rfl
  refine steps_conclude (fun name asked => ?_) fun _ => ended _
  obtain ⟨edits, mode⟩ := switches (by rw [asked]; exact Option.some_ne_none name)
  exact (switching_untouched edits mode).steps_switchMode _

/-- A line that fails touches the remembered search and the last error. -/
theorem untouched_failed (common : ∀ part ∈ commonParts, part ∈ touched)
    (untouched : editor.Untouched touched inner) (fault : Fault) (journal : Telemetry.Journal) :
    (∀ refusal, fault = .refusal refusal →
      editor.Untouched touched (editor.afterRefusal inner refusal journal)) ∧
    (fault.isRoutine = false → editor.Untouched touched { inner with journal }) := by
  constructor
  · intro refusal _
    refine Editor.Stepwise.trans untouched ?_
    intro part other
    cases part with
    | lastSearch => exact absurd (common _ (by decide)) other
    | lastError => exact absurd (common _ (by decide)) other
    | _ => exact rfl
  · intro _
    exact Editor.Stepwise.trans untouched (.of_eq rfl rfl rfl)

/-- What touches only the listed parts and asks for another mode only if that is one of them, makes
a line that touches only them. -/
theorem settles_untouched {work : EditorM Reply} (common : ∀ part ∈ commonParts, part ∈ touched)
    (planned : editor.Untouched touched middle)
    (untouched : work.Keeps (Untouched touched) fun reply => reply.switchTo? ≠ none →
      (.lines ∈ touched ∧ .history ∈ touched) ∧ .mode ∈ touched) :
    Settles (fun _ after => editor.Untouched touched after) editor work middle := by
  refine (untouched middle).mono ?_ ?_
  · rintro reply inner ⟨worked, switches⟩ journal
    have reached := Editor.Stepwise.trans (Editor.Stepwise.trans planned worked)
      (Editor.Unlogged.logged inner journal)
    exact (untouched_conclude (common _ (by decide)) switches _).mono
      (fun _ _ concluded => Editor.Stepwise.trans reached concluded.1)
      (fun _ _ concluded => Editor.Stepwise.trans reached concluded)
  · intro fault inner worked journal
    exact untouched_failed common (Editor.Stepwise.trans planned worked) fault journal

/-- A command asks for another mode only if it opens text entry. -/
theorem switches_invoke (own : spec ∈ Registry.ownCommands) :
    (invoke spec invocation).Keeps (Untouched spec.parts) fun reply => reply.switchTo? ≠ none →
      (.lines ∈ spec.parts ∧ .history ∈ spec.parts) ∧ .mode ∈ spec.parts := by
  obtain ⟨handler, isBuiltin⟩ := Registry.own_builtin own
  obtain ⟨edits, modes⟩ := Registry.own_parts spec own
  by_cases isOpening : handler ∈ opening
  · have mutates := Registry.own_opening_mutates spec own handler isOpening isBuiltin
    exact (untouched_invoke own).weaken fun _ _ _ =>
      ⟨edits mutates, modes handler isOpening isBuiltin⟩
  · intro editor
    refine ((untouched_invoke own editor).and (silent_invoke isBuiltin isOpening editor)).mono ?_
      fun _ _ failed => failed.1
    rintro reply after ⟨⟨untouched, -⟩, -, stays⟩
    exact ⟨untouched, fun asks => absurd stays.stays asks⟩

/-- **A command line touches no part but those of its command and those of any line**, whether it
is answered or a fault escapes. -/
theorem ensures_submit_untouched (equipped : editor.Equipped)
    (awaiting : editor.session.mode = .command) (goesOn : editor.session.ended = false)
    (raw : String) :
    (submit raw).Ensures editor
      (fun _ after => editor.Untouched (commonParts ++ lineParts raw) after)
      (fun _ after => editor.Untouched (commonParts ++ lineParts raw) after) := by
  have active := equipped.modes.active_command awaiting
  have common : ∀ part ∈ commonParts, part ∈ commonParts ++ lineParts raw :=
    fun part member => List.mem_append_left _ member
  have searches := common .lastSearch (by decide)
  refine ensures_submit_dispatch ⟨active, goesOn⟩ fun journal => ?_
  have told : editor.Untouched (commonParts ++ lineParts raw) (editor.told raw journal) :=
    .of_eq rfl rfl rfl
  rw [dispatch_eq, ensures_bind]
  refine (ensures_plan_bound (withoutLineEnd raw) (editor.told raw journal)).mono ?_ ?_
  · rintro request middle ⟨sought, bound, -⟩
    have planned := Editor.Stepwise.trans told (sought.untouched searches)
    cases request with
    | visit first? last? =>
        refine settles_untouched common planned fun middle => ?_
        refine ((untouched_navigate _ first? last? middle).and
          (keeps_navigate _ first? last? middle)).mono ?_ fun _ _ failed => failed.1
        rintro reply after ⟨⟨untouched, -⟩, -, plain⟩
        exact ⟨untouched, fun asks => absurd plain.stays asks⟩
    | invoke spec invocation =>
        have registry : (editor.told raw journal).registry = Registry.own := equipped.registry
        simp only [Request.Bound, registry] at bound
        have isLine : lineParts raw = spec.parts := lineParts_eq bound
        obtain ⟨letter, -, isBound⟩ := Option.bind_eq_some_iff.mp bound
        obtain ⟨own, -⟩ := Registry.find?_own isBound
        have included : ∀ part ∈ spec.parts, part ∈ commonParts ++ lineParts raw :=
          fun part member => List.mem_append_right _ (isLine ▸ member)
        refine settles_untouched common planned fun middle =>
          (switches_invoke own middle).mono ?_ ?_
        · rintro reply after ⟨untouched, switches⟩
          refine ⟨untouched.mono included, fun asks => ?_⟩
          obtain ⟨⟨lines, history⟩, mode⟩ := switches asks
          exact ⟨⟨included _ lines, included _ history⟩, included _ mode⟩
        · exact fun fault after untouched => untouched.mono included
  · rintro fault inner ⟨sought, -⟩ journal
    exact untouched_failed common (Editor.Stepwise.trans told (sought.untouched searches)) fault
      journal

end EditorM

/-- The parts that a submitted command line may touch, from any buffer. -/
theorem Editor.Equipped.untouched {editor : Editor} (equipped : editor.Equipped)
    (awaiting : editor.session.mode = .command) (goesOn : editor.session.ended = false)
    (raw : String) : editor.Untouched (commonParts ++ lineParts raw) (editor.next raw) :=
  EditorM.Ensures.run (fun _ after => editor.Untouched (commonParts ++ lineParts raw) after)
    (EditorM.ensures_submit_untouched equipped awaiting goesOn raw)

end LineEditor

import LineEditor.Console.Host
import LineEditor.Editor.Launch
import LineEditor.Proofs.Editor.CommandSteps
import LineEditor.Proofs.Editor.TextSteps

/-!
# Reachable editors

An editor that is launched with its own commands for a fresh buffer, and the
editors it becomes by submitting lines to it, one after the other, whether or
not a fault escapes (`Editor.Reachable`).

All of them are sound (`Editor.Reachable.sound`).  Either the editor awaits a
command and no transaction is open, or text is being entered into a buffer that
comes by edits, inside a transaction that is still open, from one that was sound
when the transaction was opened (`Editor.Sound`).
-/

set_option autoImplicit false

namespace LineEditor

/-- A buffer as it is built: no transaction is open, the current line can be addressed, and the
history is within its limit. -/
structure Buffer.Fresh (buffer : Buffer) : Prop where
  closed : buffer.Closed
  placed : buffer.Placed
  bounded : buffer.history.Bounded

/-- An editor is to be made with its own commands, for a fresh buffer. -/
structure LaunchOptions.Standard (options : LaunchOptions) : Prop where
  table : options.table? = none
  loadOwn : options.loadOwn = true
  fresh : ∀ buffer, options.buffer? = some buffer → buffer.Fresh

namespace Editor

/-- The answer to a submitted line. -/
def answer (editor : Editor) (raw : String) : Except Fault Output :=
  ((EditorM.submit raw).runOn editor).1

/-- The editor after a submitted line, be it answered or not. -/
def next (editor : Editor) (raw : String) : Editor :=
  ((EditorM.submit raw).runOn editor).2

/-- The editor after a sequence of submitted lines. -/
def run (editor : Editor) (lines : List String) : Editor :=
  lines.foldl next editor

/-- An editor that is launched with its own commands for a fresh buffer, perhaps attached to a
console, or that comes from such a one by submitting lines. -/
inductive Reachable : Editor → Prop
  | launched {options : LaunchOptions} {journal : Telemetry.Journal} {editor : Editor}
      (standard : options.Standard) (success : launch options journal = .ok editor) :
      Reachable editor
  | attached {editor : Editor} (reachable : Reachable editor) (input : List String) :
      Reachable (Console.Host.attach editor input).editor
  | submitted {editor : Editor} (reachable : Reachable editor) (raw : String) :
      Reachable (editor.next raw)

theorem Reachable.run {editor : Editor} (reachable : editor.Reachable) (lines : List String) :
    (editor.run lines).Reachable := by
  induction lines generalizing editor with
  | nil => exact reachable
  | cons raw rest ih => exact ih (reachable.submitted raw)

/-- What holds of an editor between two lines. -/
inductive Sound (editor : Editor) : Prop
  | command (ready : editor.CommandReady) (bounded : editor.buffer.history.Bounded)
  | text (ready : editor.TextReady) (registry : editor.registry = Registry.own) {origin : Buffer}
      {label : String} {count : Nat} (fresh : origin.Fresh)
      (edited : (origin.enter label).Edited count editor.buffer)

/-! ## Every line keeps an editor sound -/

variable {editor after : Editor}

/-- Going on in the command mode with another buffer that is fresh. -/
theorem CommandReady.goesOn (ready : editor.CommandReady) (kept : editor.Kept after)
    (fresh : after.buffer.Fresh) (mode : after.session.mode = .command)
    (pending : after.pending = false) : after.Sound :=
  .command
    { registry := kept.registry.trans ready.registry
      placed := fresh.placed
      closed := fresh.closed
      modes := kept.modes.trans ready.modes
      mode := mode
      pending := pending }
    fresh.bounded

theorem CommandReady.fresh (ready : editor.CommandReady) (bounded : editor.buffer.history.Bounded) :
    editor.buffer.Fresh :=
  ⟨ready.closed, ready.placed, bounded⟩

end Editor

/-- Taking a change back gives a buffer that is fresh again. -/
theorem Buffer.Fresh.undo {buffer restored : Buffer} (fresh : buffer.Fresh)
    (undone : buffer.undo? = some restored) : restored.Fresh := by
  obtain ⟨entry, rest, back⟩ := undo?_restored undone
  refine ⟨⟨back.opened.trans fresh.closed.opened, back.depth.trans fresh.closed.depth⟩, back.placed,
    ?_⟩
  rw [back.history]
  exact fresh.bounded.tail back.entries

theorem Buffer.Committed.fresh {before after : Buffer} {label : String} {count : Nat}
    (committed : before.Committed label count after) (fresh : before.Fresh) : after.Fresh :=
  ⟨committed.closed, committed.placed fresh.placed, committed.bounded fresh.bounded⟩

theorem Buffer.SameText.fresh {before after : Buffer} (sameText : before.SameText after)
    (fresh : before.Fresh) : after.Fresh where
  closed := ⟨sameText.opened.trans fresh.closed.opened, sameText.depth.trans fresh.closed.depth⟩
  placed := sameText.placed fresh.placed
  bounded := sameText.history.symm ▸ fresh.bounded

namespace Editor

variable {editor after : Editor} {text : String}

/-- A line that is submitted as a command keeps the editor sound. -/
theorem CommandStep.sound {outcome : Except Fault Output} (ready : editor.CommandReady)
    (bounded : editor.buffer.history.Bounded) (goesOn : editor.session.ended = false)
    (step : editor.CommandStep text outcome after) : after.Sound := by
  have fresh := ready.fresh bounded
  cases step with
  | refused steady session events failed undo =>
      exact ready.goesOn steady.kept (steady.buffer.symm ▸ fresh)
        (by rw [session]; exact ready.mode) (steady.pending.trans ready.pending)
  | escaped steady session unforeseen notMisuse undo =>
      exact ready.goesOn steady.kept (steady.buffer.symm ▸ fresh)
        (by rw [session]; exact ready.mode) (steady.pending.trans ready.pending)
  | consulted kept other buffer pending session succeeded =>
      exact ready.goesOn kept (buffer.fresh fresh) (by rw [session]; exact ready.mode)
        (pending.trans ready.pending)
  | committed kept other buffer pending session succeeded =>
      obtain ⟨label, count, committed⟩ := buffer
      exact ready.goesOn kept (committed.fresh fresh) (by rw [session]; exact ready.mode)
        (pending.trans ready.pending)
  | opened kept other buffer pending session start within =>
      obtain ⟨label, count, edited⟩ := buffer
      refine .text ⟨kept.modes.trans ready.modes, by rw [session], pending, ?_, start, within, ?_⟩
        (kept.registry.trans ready.registry) fresh edited
      · rw [edited.opened_entered fresh.closed]
        rfl
      · rw [session]
        exact goesOn
  | undone kept same buffer pending session =>
      exact ready.goesOn kept (fresh.undo buffer) (by rw [session]; exact ready.mode)
        (pending.trans ready.pending)

/-- A line that is submitted as text keeps the editor sound. -/
theorem TextStep.sound (ready : editor.TextReady) (registry : editor.registry = Registry.own)
    {origin : Buffer} {label : String} {count : Nat} (fresh : origin.Fresh)
    (edited : (origin.enter label).Edited count editor.buffer) (step : editor.TextStep text after) :
    after.Sound := by
  cases step with
  | entered other kept buffer lines pending session within events counted =>
      obtain ⟨readyAfter, -⟩ :=
        (TextStep.entered other kept buffer lines pending session within events counted).ready ready
          other
      exact .text readyAfter (kept.registry.trans registry) fresh (edited.trans buffer)
  | closed ends kept buffer committed pending session =>
      have outcome := ((edited.trans buffer).committed fresh.closed).fresh fresh
      rw [← committed] at outcome
      exact .command
        { registry := kept.registry.trans registry
          placed := outcome.placed
          closed := outcome.closed
          modes := kept.modes.trans ready.modes
          mode := by rw [session]
          pending := pending }
        outcome.bounded

/-- After the session has ended, a line does nothing. -/
theorem submit_ended (ended : editor.session.ended = true) (raw : String) :
    editor.answer raw = .ok { kind := .ended } ∧ editor.next raw = editor := by
  have run : (EditorM.submit raw).runOn editor = (.ok { kind := .ended }, editor) := by
    simp only [EditorM.submit, EditorM.runOn_bind, EditorM.runOn_get, ended, if_true,
      EditorM.runOn_pure]
  simp only [answer, next, run, and_self]

theorem CommandReady.step (ready : editor.CommandReady) (goesOn : editor.session.ended = false)
    (raw : String) :
    editor.CommandStep (withoutLineEnd raw) (editor.answer raw) (editor.next raw) :=
  (EditorM.ensures_submit_command ready goesOn raw).run
    (editor.CommandStep (withoutLineEnd raw))

theorem TextReady.step (ready : editor.TextReady) (raw : String) :
    editor.answer raw = .ok { kind := .none } ∧
      editor.TextStep (withoutLineEnd raw) (editor.next raw) := by
  refine EditorM.Ensures.run
    (fun outcome after =>
      outcome = .ok { kind := .none } ∧ editor.TextStep (withoutLineEnd raw) after)
    ((EditorM.ensures_submit_text ready raw).mono ?_ fun _ _ impossible => impossible.elim)
  rintro output after ⟨rfl, step⟩
  exact ⟨rfl, step⟩

/-- **A submitted line keeps an editor sound.** -/
theorem Sound.next (sound : editor.Sound) (raw : String) : (editor.next raw).Sound := by
  cases sound with
  | command ready bounded =>
      cases ended : editor.session.ended with
      | false => exact (ready.step ended raw).sound ready bounded ended
      | true =>
          rw [(submit_ended ended raw).2]
          exact .command ready bounded
  | text ready registry fresh edited =>
      exact (ready.step raw).2.sound ready registry fresh edited

theorem Sound.commandReady (sound : editor.Sound) (awaiting : editor.session.mode = .command) :
    editor.CommandReady := by
  cases sound with
  | command ready bounded => exact ready
  | text ready registry fresh edited =>
      rw [ready.mode] at awaiting
      cases awaiting

theorem Sound.textReady (sound : editor.Sound) (entering : editor.session.mode = .text) :
    editor.TextReady ∧ editor.registry = Registry.own := by
  cases sound with
  | command ready bounded =>
      rw [ready.mode] at entering
      cases entering
  | text ready registry fresh edited => exact ⟨ready, registry⟩

/-- The history is within its limit also while a transaction is open. -/
theorem Sound.bounded (sound : editor.Sound) : editor.buffer.history.Bounded := by
  cases sound with
  | command ready bounded => exact bounded
  | text ready registry fresh edited =>
      rw [edited.history, Buffer.enter_closed fresh.closed]
      exact fresh.bounded

/-! ## Launching -/

/-- Registering the two modes succeeds as long as none is registered. -/
theorem registerModes_eq (editor : Editor) (unregistered : editor.modes = {})
    (awaiting : editor.session.mode = .command) :
    ∃ journal, (do
        EditorM.registerMode .command
        EditorM.registerMode .text : EditorM Unit).runOn editor =
      (.ok (), { editor with
        modes := { command? := some .command, text? := some .text }, journal }) := by
  obtain ⟨config, registry, modes, buffer, session, disk, journal, events, pending, entered,
    hosted⟩ := editor
  obtain ⟨mode, lastError, verbose, prompt, search, substitution, marks, quit, place, ended⟩ :=
    session
  subst unregistered awaiting
  exact ⟨_, rfl⟩

/-- Launching succeeds and adds nothing but the modes and what is told to the log. -/
theorem launch_eq (options : LaunchOptions) (journal : Telemetry.Journal) :
    ∃ final, launch options journal =
      .ok { withoutModes options journal with
        modes := { command? := some .command, text? := some .text }, journal := final } := by
  obtain ⟨final, registered⟩ := registerModes_eq (withoutModes options journal) rfl rfl
  refine ⟨final, ?_⟩
  rw [launch]
  simp only [registered]

/-- A buffer that is made without a history is fresh. -/
theorem fresh_make {parts : BufferParts} (unused : parts.history? = none) :
    (Buffer.make parts).Fresh := by
  refine ⟨⟨rfl, rfl⟩, Buffer.clampCurrent_placed _, ?_⟩
  have history : (Buffer.make parts).history = {} := by
    simp only [Buffer.make, Buffer.clampCurrent, unused]
    rfl
  rw [history]
  exact Int.le_max_right 256 0

/-- Launching with the editor's own commands succeeds, and the editor is ready for a command. -/
theorem launch_standard {options : LaunchOptions} (standard : options.Standard)
    (journal : Telemetry.Journal) :
    ∃ editor, launch options journal = .ok editor ∧ editor.CommandReady ∧
      editor.buffer = options.buffer?.getD (.make { encoding := options.config.encoding }) ∧
      editor.session = .ofConfig options.config ∧ editor.buffer.Fresh := by
  have fresh : (options.buffer?.getD (.make { encoding := options.config.encoding })).Fresh := by
    cases given : options.buffer? with
    | none => exact fresh_make rfl
    | some buffer => exact standard.fresh buffer given
  have registry : (withoutModes options journal).registry = Registry.own := by
    simp only [withoutModes, tableFor, standard.table, standard.loadOwn, if_true]
  obtain ⟨final, success⟩ := launch_eq options journal
  refine ⟨_, success, ?_, rfl, rfl, fresh⟩
  exact
    { registry := registry
      placed := fresh.placed
      closed := fresh.closed
      modes := rfl
      mode := rfl
      pending := rfl }

/-- **Every reachable editor is sound.** -/
theorem Reachable.sound {editor : Editor} (reachable : editor.Reachable) : editor.Sound := by
  induction reachable with
  | launched standard success =>
      obtain ⟨launched, same, ready, buffer, session, fresh⟩ := launch_standard standard _
      obtain rfl := Except.ok.inj (same.symm.trans success)
      exact .command ready fresh.bounded
  | attached reachable input sound =>
      cases sound with
      | command ready bounded =>
          exact .command
            ⟨⟨ready.registry, ready.placed, ready.closed⟩, ready.modes, ready.mode, ready.pending⟩
            bounded
      | text ready registry fresh edited =>
          exact .text ⟨ready.modes, ready.mode, ready.pending, ready.opened, ready.start,
            ready.within, ready.goesOn⟩ registry fresh edited
  | submitted reachable raw sound => exact sound.next raw

/-- The editor that is launched with its own commands for a text, with a log that has no options. -/
def ofText (text : String) : Editor :=
  let options : LaunchOptions := { buffer? := some (.ofText text) }
  let journal : Telemetry.Journal := { configuration := ⟨0, []⟩ }
  match launch options journal with
  | .ok editor => editor
  | .error _ => withoutModes options journal

/-- The buffer of a text is fresh. -/
theorem fresh_ofText (text : String) : (Buffer.ofText text).Fresh :=
  fresh_make rfl

theorem standard_ofText (text : String) :
    LaunchOptions.Standard { buffer? := some (.ofText text) } := by
  refine ⟨rfl, rfl, ?_⟩
  intro buffer given
  cases given
  exact fresh_ofText text

theorem launch_ofText (text : String) :
    launch { buffer? := some (.ofText text) } { configuration := ⟨0, []⟩ } = .ok (ofText text) := by
  obtain ⟨editor, success, -⟩ := launch_standard (standard_ofText text) { configuration := ⟨0, []⟩ }
  simp only [ofText, success]

theorem reachable_ofText (text : String) : (ofText text).Reachable :=
  .launched (standard_ofText text) (launch_ofText text)

end Editor

end LineEditor

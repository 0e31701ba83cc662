import LineEditor.Proofs.Editor.Effects
import LineEditor.Proofs.Editor.Foreseen
import LineEditor.Proofs.Editor.Numbered
import LineEditor.Proofs.Editor.RolledBack
import LineEditor.Proofs.Editor.Safety
import LineEditor.Proofs.Editor.Telling

/-!
# Faults that escape

A refusal is answered with a question mark, and any other fault escapes to the
host.  What can escape has its cause in the line that was submitted or in the
circumstances (`CommandLine.Troubles`): an address or a pattern that cannot be
read, the forbidden character in a path, in the name of an encoding or in a shell
command, a command or a time limit that the shell cannot be given, or a device or
a shell that keeps the editor waiting for ever.

Nothing else escapes from a reachable editor (`Editor.escapes_exactly`).  It
takes an invariant to see that: all remembered patterns are patterns, so that
what is remembered never troubles a later line (`Editor.Reachable.readable`).
-/

set_option autoImplicit false

namespace LineEditor

/-- The letters of the commands that read an address or a pattern in their arguments. -/
def readingLetters : List Char := ['m', 't', 's']

/-- The letter of the command that reads a file. -/
def sourceLetter : Char := 'r'

/-- The letter of the command that runs a shell command. -/
def shellLetter : Char := '!'

/-- What can trouble a scanned line in some circumstances: an address or arguments that provoke a
fault, and what files and the shell have against a command. -/
inductive CommandLine.Troubles (line : CommandLine) (around : Circumstances) : Fault → Prop where
  | address {fault : Fault} {token : String} (typed : token ∈ [line.first, line.second])
      (provoked : Provoked around.platform.engine token.toList fault) : Troubles line around fault
  | argument {fault : Fault} {letter : Char} (bound : line.letter? = some letter)
      (reads : letter ∈ readingLetters)
      (provoked : Provoked around.platform.engine line.args.toList fault) :
      Troubles line around fault
  | source {fault : Fault} (bound : line.letter? = some sourceLetter)
      (trouble : FileTrouble Device.KeepsReader around.disk (Text.strip line.args)
        around.config.encoding fault) : Troubles line around fault
  | target {fault : Fault} {path : String} (bound : line.letter? = some writeLetter)
      (meant : path = Text.strip line.args ∨
        Text.strip line.args = "" ∧ around.path? = some path)
      (trouble : FileTrouble Device.KeepsWriter around.disk path around.encoding fault) :
      Troubles line around fault
  | shell {fault : Fault} (bound : line.letter? = some shellLetter)
      (trouble : ShellTrouble around.platform.shell around.config around.disk
        (Text.strip line.args) fault) : Troubles line around fault

/-- The handlers that something can trouble, and their letters. -/
theorem Registry.own_troubled : ∀ spec ∈ Registry.ownCommands,
    (∀ handler ∈ [Builtin.moveLines, .copyLines, .substitute],
      spec.handler = .builtin handler → spec.letter ∈ readingLetters) ∧
    (spec.handler = .builtin .readFile → spec.letter = sourceLetter) ∧
    (spec.handler = .builtin .writeFile → spec.letter = writeLetter) ∧
    (spec.handler = .builtin .runShell → spec.letter = shellLetter) := by
  decide

/-- What troubles the handler of a line's command troubles the line. -/
theorem Builtin.Troubles.line {spec : CommandSpec} (own : spec ∈ Registry.ownCommands)
    {handler : Builtin} (builtin : spec.handler = .builtin handler) {line : CommandLine}
    (bound : line.letter? = some spec.letter) {around : Circumstances} {fault : Fault}
    (troubles : handler.Troubles around line.args fault) : line.Troubles around fault := by
  obtain ⟨reads, sources, targets, runs⟩ := Registry.own_troubled spec own
  cases troubles with
  | argument member provoked => exact .argument bound (reads handler member builtin) provoked
  | source same trouble =>
      subst same
      exact .source (bound.trans (congrArg some (sources builtin))) trouble
  | target same meant trouble =>
      subst same
      exact .target (bound.trans (congrArg some (targets builtin))) meant trouble
  | shell same trouble =>
      subst same
      exact .shell (bound.trans (congrArg some (runs builtin))) trouble

/-- What happens while a line is planned does not change the circumstances. -/
theorem Editor.Sought.circumstances {before after : Editor} (sought : before.Sought after) :
    after.circumstances = before.circumstances := by
  obtain ⟨_, _, rfl⟩ := sought
  rfl

namespace EditorM

variable {editor : Editor} {engine : Pattern.Engine}

/-! ## Dispatching -/

theorem foreseen_resolveToken (token : String) :
    (resolveToken token).Foreseen engine (Provoked engine token.toList) :=
  .ite (foreseen_pure _) (.bind (foreseen_resolveAddress token) fun _ => foreseen_pure _)

theorem fails_checkAddress (buffer : Buffer) (line? : Option Int) :
    FailsOnly (fun fault => fault.isRoutine = true) (buffer.checkAddress line?) := by
  cases line? with
  | none => exact .ok none
  | some line =>
      rw [Buffer.checkAddress]
      split
      · exact .error rfl
      · exact .ok _

theorem fails_checkLines (buffer : Buffer) (start? finish? : Option Int) :
    FailsOnly (fun fault => fault.isRoutine = true) (buffer.checkLines start? finish?) := by
  refine .bind (fails_checkAddress buffer start?) fun first? _ =>
    .bind (fails_checkAddress buffer finish?) fun last? _ => ?_
  split
  · split
    · exact .error rfl
    · exact .ok _
  · exact .ok _

theorem fails_bindLines (spec : CommandSpec) (current : Nat) (args : String)
    (first? last? : Option Nat) :
    FailsOnly (fun fault => fault.isRoutine = true) (spec.bindLines current args first? last?) := by
  rw [CommandSpec.bindLines]
  split
  · exact .error rfl
  · split
    · exact .error rfl
    · exact .ok _

/-- A command is given the arguments of its line. -/
theorem bindLines_args {spec : CommandSpec} {current : Nat} {args : String}
    {first? last? : Option Nat} {invocation : Invocation}
    (success : spec.bindLines current args first? last? = .ok invocation) :
    invocation.args = args := by
  rw [CommandSpec.bindLines] at success
  split at success
  · cases success
  · split at success
    · cases success
    · cases success
      rfl

/-- Resolving the addresses of a line is refused, or one of them provokes the fault. -/
theorem foreseen_resolveLines (line : CommandLine) :
    (resolveLines line).Foreseen engine fun fault =>
      ∃ token ∈ [line.first, line.second], Provoked engine token.toList fault :=
  .bind ((foreseen_resolveToken _).mono fun _ provoked => ⟨_, by simp, provoked⟩) fun _ =>
    .bind ((foreseen_resolveToken _).mono fun _ provoked => ⟨_, by simp, provoked⟩) fun _ =>
      .bind foreseen_get fun _ => foreseen_routine (fails_checkLines _ _ _)

/-- Planning a line is refused, or one of its addresses provokes the fault.  What is planned to be
invoked is given the arguments of the line. -/
theorem ensures_plan_foreseen (line : CommandLine) (readable : editor.Readable engine) :
    (plan line).Ensures editor
      (fun request after => after.Readable engine ∧
        ∀ spec invocation, request = .invoke spec invocation → invocation.args = line.args)
      (fun fault after => after.Readable engine ∧ (fault.IsKnown ∨
        ∃ token ∈ [line.first, line.second], Provoked engine token.toList fault)) := by
  rw [plan, ensures_bind]
  refine (foreseen_resolveLines line editor readable).mono ?_ (fun _ _ failed => failed)
  intro lines middle kept
  simp only [bindRequest, ensures_bind, ensures_get]
  split
  · rw [ensures_pure]
    exact ⟨kept, fun _ _ same => by cases same⟩
  · simp only [ensures_bind, ensures_lift, ensures_pure]
    refine ⟨fun invocation success => ⟨kept, ?_⟩, fun fault failed =>
      ⟨kept, .inl (.inl (fails_bindLines _ _ _ _ _ fault failed))⟩⟩
    rintro _ _ ⟨⟩
    exact bindLines_args success

theorem fails_navigationTarget (buffer : Buffer) (line : CommandLine) (first? last? : Option Nat) :
    FailsOnly (fun fault => fault.isRoutine = true)
      (navigationTarget buffer line first? last?) := by
  unfold navigationTarget
  split
  · exact .ok _
  · exact .ok _
  · split
    · exact .error rfl
    · split
      · exact .error rfl
      · exact .ok _

theorem foreseen_navigate (line : CommandLine) (first? last? : Option Nat)
    {extra : Fault → Prop} : (navigate line first? last?).Foreseen engine extra :=
  .bind foreseen_get fun _ => .bind (foreseen_routine (fails_navigationTarget _ _ _ _)) fun _ =>
    .bind (foreseen_setCurrent _) fun _ => .bind foreseen_get fun editor =>
      .bind (foreseen_misuse (editor.buffer.fails_readRange _ _)) fun _ => foreseen_pure _

/-- Invoking a command of the editor's own is refused, or its handler is troubled. -/
theorem ensures_invoke_foreseen {spec : CommandSpec} {handler : Builtin}
    (builtin : spec.handler = .builtin handler) (invocation : Invocation)
    (readable : editor.Readable editor.platform.engine) :
    (invoke spec invocation).Ensures editor
      (fun _ after => after.Readable editor.platform.engine)
      (fun fault after => after.Readable editor.platform.engine ∧ (fault.IsKnown ∨
        handler.Troubles editor.circumstances invocation.args fault)) := by
  have called : ∀ editor : Editor, editor.Readable editor.platform.engine →
      (call spec invocation).Ensures editor (fun _ after => after.Readable editor.platform.engine)
        (fun fault after => after.Readable editor.platform.engine ∧ (fault.IsKnown ∨
          handler.Troubles editor.circumstances invocation.args fault)) := by
    intro editor readable
    rw [call, ensures_span, builtin]
    exact foreseen_builtin handler invocation readable
  rw [invoke, ensures_ite]
  refine ⟨fun _ => ?_, fun _ => called editor readable⟩
  rw [ensures_transaction]
  have same : ∀ label, (editor.enterTransaction label).circumstances = editor.circumstances := by
    intro label
    simp only [Editor.circumstances, Editor.enterTransaction, Buffer.enter_path?,
      Buffer.enter_encoding]
  refine (called (editor.enterTransaction _) readable).mono ?_ ?_
  · intro reply inner kept
    split
    · exact kept
    · rwa [Editor.Readable, Editor.leaveTransaction_session, Editor.leaveTransaction_platform]
  · rintro fault inner ⟨kept, causes⟩
    rw [Editor.Readable, Editor.leaveTransaction_session, Editor.leaveTransaction_platform]
    rw [same] at causes
    exact ⟨kept, causes⟩

/-- **Dispatching a line is refused, or something in the line troubles it.** -/
theorem ensures_dispatch_foreseen (text : String) (registry : editor.registry = Registry.own)
    (readable : editor.Readable editor.platform.engine) :
    (dispatch (CommandLine.scan text)).Ensures editor
      (fun _ after => after.Readable editor.platform.engine)
      (fun fault after => after.Readable editor.platform.engine ∧ (fault.IsKnown ∨
        (CommandLine.scan text).Troubles editor.circumstances fault)) := by
  rw [dispatch_eq, ensures_bind]
  refine ((ensures_plan_bound text editor).and
    (ensures_plan_foreseen (CommandLine.scan text) readable)).mono ?_ ?_
  · rintro request middle ⟨⟨sought, bound, -⟩, kept, given⟩
    cases request with
    | visit first? last? => exact foreseen_navigate _ _ _ middle kept
    | invoke spec invocation =>
        have found : (CommandLine.scan text).letter?.bind Registry.own.find? = some spec := by
          rw [← registry]
          exact bound
        obtain ⟨letter, isLetter, isBound⟩ := Option.bind_eq_some_iff.mp found
        obtain ⟨own, rfl⟩ := Registry.find?_own isBound
        obtain ⟨handler, builtin⟩ := Registry.own_builtin own
        have invoked := ensures_invoke_foreseen builtin invocation (kept.1.symm ▸ kept)
        rw [kept.1] at invoked
        refine invoked.mono (fun _ _ kept => kept) ?_
        rintro fault after ⟨kept, known | troubles⟩
        · exact ⟨kept, .inl known⟩
        · rw [sought.circumstances, given spec invocation rfl] at troubles
          exact ⟨kept, .inr (troubles.line own builtin isLetter)⟩
  · rintro fault middle ⟨-, kept, known | ⟨token, typed, provoked⟩⟩
    · exact ⟨kept, .inl known⟩
    · exact ⟨kept, .inr (.address typed provoked)⟩

end EditorM

/-! ## Submitting -/

namespace Editor

/-- What dispatching a submitted line comes to, before a refusal is answered. -/
def dispatched (editor : Editor) (raw : String) : Except Fault Reply :=
  ((EditorM.dispatch (CommandLine.scan (withoutLineEnd raw))).runOn editor).1

/-- What can trouble a submitted line. -/
def Troubles (editor : Editor) (raw : String) (fault : Fault) : Prop :=
  (CommandLine.scan (withoutLineEnd raw)).Troubles editor.circumstances fault

/-- What a submitted line comes to.  A command line is answered as its dispatch says: a refusal by
an error that begins with a question mark, and a success by no error.  What escapes has its cause in
the line. -/
inductive LineOutcome (editor : Editor) (raw : String) : Except Fault Output → Prop
  | idle {output : Output} (otherwise : ¬editor.AwaitsCommand) (succeeded : output.kind ≠ .error) :
      LineOutcome editor raw (.ok output)
  | completed {output : Output} (awaits : editor.AwaitsCommand) {reply : Reply}
      (dispatched : editor.dispatched raw = .ok reply) (succeeded : output.kind ≠ .error) :
      LineOutcome editor raw (.ok output)
  | refused {output : Output} (awaits : editor.AwaitsCommand) {refusal : Refusal}
      (dispatched : editor.dispatched raw = .error (.refusal refusal))
      (failed : output.kind = .error) (marked : output.lines.head? = some "?") :
      LineOutcome editor raw (.ok output)
  | escaped {fault : Fault} (awaits : editor.AwaitsCommand)
      (dispatched : editor.dispatched raw = .error fault) (unforeseen : fault.isRoutine = false)
      (troubles : editor.Troubles raw fault) : LineOutcome editor raw (.error fault)

end Editor

namespace EditorM

variable {editor : Editor} {engine : Pattern.Engine}

/-- Concluding a completed line keeps what is remembered, and it does not look like an error. -/
theorem ensures_conclude_readable {started inner : Editor} {letter? : Option Char} {reply : Reply}
    (modes : started.BothModes) (awaiting : started.session.mode = .command)
    (completes : started.Completes letter? reply inner) (readable : inner.Readable engine) :
    (conclude reply).Ensures inner
      (fun output after => after.Readable engine ∧ output.kind ≠ .error) (fun _ _ => False) := by
  have stays : reply.status ≠ "error" → reply.switchTo? = none →
      (conclude reply).Ensures inner
        (fun output after => after.Readable engine ∧ output.kind ≠ .error) (fun _ _ => False) := by
    intro succeeded stays
    refine (ensures_conclude_stays succeeded stays).mono ?_ (fun _ _ impossible => impossible)
    rintro output after ⟨other, steady, session⟩
    exact ⟨readable.of_same steady.kept (by rw [session]) (by rw [session]), other⟩
  cases completes with
  | consulted other consulted => exact stays consulted.succeeded consulted.stays
  | committed other committed => exact stays committed.succeeded committed.stays
  | undone same undone =>
      have reply := undone.reply
      subst reply
      exact stays (by decide) rfl
  | opened other opened =>
      have mode : inner.session.mode = .command := by
        rw [opened.session]
        exact awaiting
      have modes : inner.BothModes := opened.framed.modes.trans modes
      refine (ensures_conclude_text modes mode opened.succeeded opened.goesOn opened.switch
        opened.output).mono ?_ (fun _ _ impossible => impossible)
      rintro output after ⟨rfl, steady, session, -⟩
      exact ⟨readable.of_same steady.kept (by rw [session]) (by rw [session]), by decide⟩

/-- The lines that report an error begin with a question mark. -/
theorem errorMarker_head (session : Session) (message : String) :
    (session.errorMarker message).head? = some "?" := by
  rw [Session.errorMarker]
  split
  · rfl
  · rfl

/-- **A command line is answered, or something in it troubles it.** -/
theorem ensures_submit_foreseen (ready : editor.CommandReady)
    (goesOn : editor.session.ended = false) (readable : editor.Readable editor.platform.engine)
    (raw : String) :
    (submit raw).Ensures editor
      (fun output after =>
        after.Readable editor.platform.engine ∧ editor.LineOutcome raw (.ok output))
      (fun fault after =>
        after.Readable editor.platform.engine ∧ editor.LineOutcome raw (.error fault)) := by
  have awaits : editor.AwaitsCommand := ⟨ready.modes.active_command ready.mode, goesOn⟩
  refine ensures_submit_dispatch awaits fun journal => ?_
  let started := editor.told raw journal
  have awaiting : started.Awaiting := ⟨ready.registry, ready.placed, ready.closed⟩
  have both : started.BothModes := ready.modes
  -- The host is told of the line first, which makes no difference to what the dispatch comes to.
  have same : ((dispatch (CommandLine.scan (withoutLineEnd raw))).runOn started).1 =
      editor.dispatched raw :=
    (oblivious_dispatch _ editor started ⟨_, _, rfl⟩).same
  refine ((ensures_dispatch _ awaiting).and
    (ensures_dispatch_foreseen _ ready.registry readable)).traced.mono ?_ ?_
  · rintro reply inner ⟨⟨completes, kept⟩, run⟩ journal
    rw [run] at same
    have completes := (Editor.Sought.refl started).completes_inner (fun _ => journal) completes
    refine (ensures_conclude_readable both ready.mode completes kept).mono ?_
      (fun _ _ impossible => impossible.elim)
    rintro output after ⟨kept, succeeded⟩
    exact ⟨kept, .completed awaits same.symm succeeded⟩
  · rintro fault inner ⟨⟨declines, kept, causes⟩, run⟩ journal
    rw [run] at same
    constructor
    · rintro refusal rfl
      exact ⟨⟨kept.1, readable.2.search, kept.2.substitution⟩,
        .refused awaits same.symm rfl (errorMarker_head _ _)⟩
    · intro unforeseen
      refine ⟨kept, .escaped awaits same.symm unforeseen ?_⟩
      rcases causes with (routine | misuse) | troubles
      · exact absurd routine (by simp [unforeseen])
      · exact absurd misuse declines.declined.notMisuse
      · exact troubles

end EditorM

/-! ## Reachable editors -/

namespace Editor

variable {editor : Editor}

/-- While text is being entered, a line keeps what is remembered. -/
theorem TextStep.readable {engine : Pattern.Engine} {after : Editor} {text : String}
    (step : editor.TextStep text after) (readable : editor.Readable engine) :
    after.Readable engine := by
  cases step with
  | entered _ kept _ _ _ session _ =>
      exact readable.of_same kept (by rw [session]) (by rw [session])
  | closed _ kept _ _ _ session _ =>
      exact readable.of_same kept (by rw [session]) (by rw [session])

/-- A line that is submitted to a sound editor keeps what is remembered, and comes to something
foreseen. -/
theorem Sound.outcome (sound : editor.Sound) (readable : editor.Readable editor.platform.engine)
    (raw : String) :
    (editor.next raw).Readable editor.platform.engine ∧
      editor.LineOutcome raw (editor.answer raw) := by
  cases sound with
  | command ready bounded =>
      cases ended : editor.session.ended with
      | true =>
          rw [(submit_ended ended raw).1, (submit_ended ended raw).2]
          exact ⟨readable, .idle (fun awaits => by simp [awaits.goesOn] at ended) (by decide)⟩
      | false =>
          exact EditorM.Ensures.run
            (fun outcome after =>
              after.Readable editor.platform.engine ∧ editor.LineOutcome raw outcome)
            (EditorM.ensures_submit_foreseen ready ended readable raw)
  | text ready registry fresh edited =>
      obtain ⟨answered, step⟩ := ready.step raw
      have otherwise : ¬editor.AwaitsCommand := by
        intro awaits
        have active := awaits.active
        rw [ready.modes.active_text ready.mode] at active
        cases active
      rw [answered]
      exact ⟨step.readable readable, .idle otherwise (by decide)⟩

/-- **All patterns that a reachable editor remembers are patterns.** -/
theorem Reachable.readable (reachable : editor.Reachable) :
    editor.Readable editor.platform.engine := by
  induction reachable with
  | launched standard success =>
      obtain ⟨launched, same, -, -, session, -⟩ := launch_standard standard _
      obtain rfl := Except.ok.inj (same.symm.trans success)
      refine ⟨rfl, ?_⟩
      rw [session]
      constructor
      · intro text remembered
        cases remembered
      · intro substitution remembered
        cases remembered
  | attached reachable input readable => exact readable
  | submitted reachable raw readable =>
      have kept := (reachable.sound.outcome readable raw).1
      exact ⟨rfl, kept.1 ▸ kept.2⟩

namespace LineOutcome

variable {raw : String} {answer : Except Fault Output} (outcome : editor.LineOutcome raw answer)
include outcome

theorem troubles {fault : Fault} (escaped : answer = .error fault) : editor.Troubles raw fault := by
  subst escaped
  cases outcome with
  | escaped awaits dispatched unforeseen troubles => exact troubles

theorem marked {output : Output} (answered : answer = .ok output) (failed : output.kind = .error) :
    output.lines.head? = some "?" := by
  subst answered
  cases outcome with
  | idle otherwise succeeded => exact absurd failed succeeded
  | completed awaits dispatched succeeded => exact absurd failed succeeded
  | refused awaits dispatched failed marked => exact marked

end LineOutcome

end Editor

end LineEditor

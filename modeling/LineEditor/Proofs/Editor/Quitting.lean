import LineEditor.Proofs.Editor.Saving
import LineEditor.Proofs.Editor.Undoing

/-!
# Quitting

A session ends by a line that quits, and by nothing else
(`Editor.Equipped.next_ended_iff`).  Quitting with unsaved changes is refused once
(`Editor.Equipped.next_refused`); whether that has happened in a run is a matter
of the lines (`Editor.warned`), which the session keeps track of
(`Editor.Equipped.run_warned`).  Once a session has ended it stays as it is
(`Editor.run_ended`).
-/

set_option autoImplicit false

namespace LineEditor.Editor

/-- Whether a line asks to quit and is refused because of unsaved changes. -/
def refusesQuit (editor : Editor) (raw : String) : Bool :=
  editor.session.mode == .command && submittedLetter? raw == some quitLetter &&
    (match editor.answer raw with
      | .ok output =>
        output.kind == .error &&
          (editor.next raw).events.back? == some (.commandRefused .unsavedChanges)
      | .error _ => false)

/-- Whether one of the lines of a run asked to quit and was refused. -/
def warned (editor : Editor) : List String → Bool
  | [] => false
  | raw :: rest => editor.refusesQuit raw || (editor.next raw).warned rest

/-- Whether a line is read as a command to quit that is carried out: it forces the session to end,
or there are no unsaved changes, or quitting has been refused before. -/
def Quits (editor : Editor) (raw : String) (warned : Bool) : Prop :=
  editor.session.mode = .command ∧ editor.AcceptsLine raw ∧
    (submittedLetter? raw = some forcedQuitLetter ∨
      submittedLetter? raw = some quitLetter ∧ (editor.buffer.modified = false ∨ warned = true))

variable {editor : Editor} {raw : String}

theorem AcceptsLine.iff : editor.AcceptsLine raw ↔
    editor.Accepts (CommandLine.scan (withoutLineEnd raw)) :=
  ⟨AcceptsLine.accepts, .inr⟩

/-- A session that has ended stays as it is. -/
theorem run_ended (ended : editor.session.ended = true) (lines : List String) :
    editor.run lines = editor := by
  induction lines with
  | nil => rfl
  | cons raw rest ih =>
      show (editor.next raw).run rest = editor
      rw [(submit_ended ended raw).2]
      exact ih

/-- A line ends the session exactly if it quits, where the session knows whether quitting has been
refused before. -/
theorem Equipped.next_ended_iff (equipped : editor.Equipped)
    (goesOn : editor.session.ended = false) {warned : Bool}
    (tracked : editor.session.quitState = .refusedOnce ↔ warned = true) :
    (editor.next raw).session.ended = true ↔ editor.Quits raw warned := by
  have effect := equipped.effect goesOn raw
  rw [Quits, AcceptsLine.iff, ← tracked]
  revert effect
  generalize editor.answer raw = outcome
  generalize editor.next raw = after
  intro effect
  cases effect with
  | passed candid kind quitless =>
      rw [candid.ended, goesOn]
      refine ⟨(fun impossible => by cases impossible), ?_⟩
      rintro ⟨awaiting, accepted, letter⟩
      refine absurd accepted (quitless awaiting ?_).1
      rcases letter with forced | ⟨quits, -⟩
      · exact .inr forced
      · exact .inl quits
  | saved awaiting letter kept target buffer quitState ended =>
      rw [ended, goesOn, letter]
      simp [writeLetter, quitLetter, forcedQuitLetter]
  | warned awaiting letter accepted modified first kept buffer session =>
      rw [session, letter, modified]
      simp [goesOn, first, quitLetter, forcedQuitLetter]
  | ended awaiting letter accepted kept buffer ended =>
      refine ⟨fun _ => ⟨awaiting, accepted, ?_⟩, fun _ => ended⟩
      rcases letter with forced | ⟨quits, may⟩
      · exact .inl forced
      · exact .inr ⟨quits, may.symm⟩

/-- Quitting is refused if there are unsaved changes and it has not been refused before. -/
theorem Equipped.next_refused (equipped : editor.Equipped)
    (goesOn : editor.session.ended = false) (awaiting : editor.session.mode = .command)
    (letter : submittedLetter? raw = some quitLetter) (accepted : editor.AcceptsLine raw)
    (modified : editor.buffer.modified = true)
    (first : editor.session.quitState ≠ .refusedOnce) :
    editor.answer raw =
        .ok { kind := .error, lines := editor.session.errorMarker "buffer modified" } ∧
      (editor.next raw).session.lastError = "buffer modified" ∧
      (editor.next raw).session.ended = false := by
  have effect := equipped.effect goesOn raw
  revert effect
  generalize editor.answer raw = outcome
  generalize editor.next raw = after
  intro effect
  cases effect with
  | passed candid kind quitless =>
      exact absurd accepted.accepts (quitless awaiting (.inl letter)).1
  | saved awaiting otherLetter =>
      rw [letter] at otherLetter
      cases otherLetter
  | warned awaiting letter accepted modified first kept buffer session =>
      rw [session]
      exact ⟨rfl, rfl, goesOn⟩
  | ended awaiting otherLetter =>
      rw [letter, modified] at otherLetter
      simp [first, quitLetter, forcedQuitLetter] at otherLetter

/-- The answer says that the session has ended exactly if it has. -/
theorem Equipped.answer_ended_iff (equipped : editor.Equipped) :
    (∃ output, editor.answer raw = .ok output ∧ output.kind = .ended) ↔
      (editor.next raw).session.ended = true := by
  cases ended : editor.session.ended with
  | true =>
      rw [(submit_ended ended raw).1, (submit_ended ended raw).2]
      exact ⟨fun _ => ended, fun _ => ⟨_, rfl, rfl⟩⟩
  | false =>
      have effect := equipped.effect ended raw
      revert effect
      generalize editor.answer raw = outcome
      generalize editor.next raw = after
      intro effect
      cases effect with
      | passed candid kind =>
          rw [candid.ended, ended]
          refine ⟨?_, fun impossible => by cases impossible⟩
          rintro ⟨output, answered, isEnded⟩
          exact absurd isEnded (kind output answered)
      | saved awaiting letter kept target buffer quitState ended' succeeded kind =>
          rw [ended', ended]
          simp [kind]
      | warned awaiting letter accepted modified first kept buffer session =>
          rw [session]
          simp [ended, refusalOutput]
      | ended awaiting letter accepted kept buffer ended' =>
          exact ⟨fun _ => ended', fun _ => ⟨_, rfl, rfl⟩⟩

/-- After a line that does not end the session, quitting has been refused if it had been before or
if this line has been refused. -/
theorem Equipped.next_refusedOnce (equipped : editor.Equipped)
    (goesOn : (editor.next raw).session.ended = false) :
    (editor.next raw).session.quitState = .refusedOnce ↔
      editor.session.quitState = .refusedOnce ∨ editor.refusesQuit raw = true := by
  cases ended : editor.session.ended with
  | true =>
      rw [(submit_ended ended raw).2, ended] at goesOn
      cases goesOn
  | false =>
      have effect := equipped.effect ended raw
      rw [refusesQuit]
      revert effect goesOn
      generalize editor.answer raw = outcome
      generalize editor.next raw = after
      intro goesOn effect
      cases effect with
      | passed candid kind quitless unsaved =>
          rw [candid.quitState]
          refine ⟨.inl, fun refused => refused.resolve_right ?_⟩
          intro refuses
          simp only [Bool.and_eq_true, beq_iff_eq] at refuses
          obtain ⟨⟨awaiting, letter⟩, answered⟩ := refuses
          cases outcome with
          | error fault => cases answered
          | ok output =>
              simp only [Bool.and_eq_true, beq_iff_eq] at answered
              exact (quitless awaiting (.inl letter)).2 output rfl answered.2
      | saved awaiting letter kept target buffer quitState =>
          rw [quitState]
          refine ⟨.inl, fun refused => refused.resolve_right ?_⟩
          simp [letter, writeLetter, quitLetter]
      | warned awaiting letter accepted modified first kept buffer session events =>
          simp [session, awaiting, letter, events, refusalOutput]
      | ended awaiting letter accepted kept buffer ended =>
          rw [ended] at goesOn
          cases goesOn

/-- The session keeps track of whether quitting has been refused. -/
theorem Equipped.run_warned (lines : List String) :
    ∀ {editor : Editor}, editor.Equipped → (editor.run lines).session.ended = false →
      ((editor.run lines).session.quitState = .refusedOnce ↔
        editor.session.quitState = .refusedOnce ∨ editor.warned lines = true) := by
  induction lines with
  | nil =>
      intro editor equipped goesOn
      simp only [warned, Bool.false_eq_true, or_false]
      exact Iff.rfl
  | cons raw rest ih =>
      intro editor equipped goesOn
      have step : editor.run (raw :: rest) = (editor.next raw).run rest := rfl
      have later : (editor.next raw).session.ended = false := by
        cases ended : (editor.next raw).session.ended with
        | false => rfl
        | true =>
            rw [step, run_ended ended rest, ended] at goesOn
            cases goesOn
      rw [step, ih (equipped.next raw) goesOn, equipped.next_refusedOnce later, warned,
        Bool.or_eq_true, or_assoc]

/-- **A session ends exactly when it is quit, and quitting with unsaved changes is refused once.**
Take an editor that is launched with its own commands, for any buffer, and any sequence of lines.

The next line ends the session if and only if it is read as a command with addresses that are
accepted, and its letter is `Q`, or it is `q` while there are no unsaved changes or after a line of
the run has been refused to quit.  A `q` with addresses that are accepted, while there are unsaved
changes and no line has been refused yet, is refused with the message that the buffer is modified.
An answer says that the session has ended if and only if it has.  And once it has ended, every line
is answered like that, without anything to show, and changes nothing, not even the events. -/
theorem quits_exactly {options : LaunchOptions} {journal : Telemetry.Journal} {start : Editor}
    (own : options.UsesOwn) (success : launch options journal = .ok start) (lines : List String) :
    let editor := start.run lines
    start.session.ended = false ∧
    (editor.session.ended = false → ∀ raw,
      (editor.next raw).session.ended = true ↔ editor.Quits raw (start.warned lines)) ∧
    (editor.session.ended = false → ∀ raw, editor.session.mode = .command →
      submittedLetter? raw = some quitLetter → editor.AcceptsLine raw →
      editor.buffer.modified = true → start.warned lines = false →
      editor.answer raw =
          .ok { kind := .error, lines := editor.session.errorMarker "buffer modified" } ∧
        (editor.next raw).session.lastError = "buffer modified" ∧
        (editor.next raw).session.ended = false) ∧
    (∀ raw, (∃ output, editor.answer raw = .ok output ∧ output.kind = .ended) ↔
      (editor.next raw).session.ended = true) ∧
    (editor.session.ended = true → ∀ later raw,
      (editor.run later).answer raw = .ok { kind := .ended, lines := [] } ∧
      (editor.run later).next raw = editor) := by
  intro editor
  obtain ⟨launched, session⟩ := launch_own own success
  have equipped : editor.Equipped := launched.run lines
  have unwarned : start.session.quitState ≠ .refusedOnce := by
    rw [session]
    simp [Session.ofConfig]
  have tracked : editor.session.ended = false →
      (editor.session.quitState = .refusedOnce ↔ start.warned lines = true) := by
    intro goesOn
    rw [launched.run_warned lines goesOn]
    exact or_iff_right unwarned
  refine ⟨by rw [session]; rfl, fun goesOn raw => equipped.next_ended_iff goesOn (tracked goesOn),
    ?_, fun raw => equipped.answer_ended_iff, ?_⟩
  · intro goesOn raw awaiting letter accepted modified unrefused
    refine equipped.next_refused goesOn awaiting letter accepted modified ?_
    rw [ne_eq, tracked goesOn, unrefused]
    decide
  · intro ended later raw
    rw [run_ended ended later]
    exact submit_ended ended raw

/-- A first `q` is refused, a text line that reads `q` and other commands in between do not matter,
and the second `q` ends the session. -/
theorem quits_exactly_second :
    LaunchOptions.UsesOwn { buffer? := some (.ofText "one") } ∧
      launch { buffer? := some (.ofText "one") } { configuration := ⟨0, []⟩ } =
        .ok (ofText "one") ∧
      ((ofText "one").run ["1d"]).answer "q" = .ok { kind := .error, lines := ["?"] } ∧
      (((ofText "one").run ["1d"]).next "q").session.ended = false ∧
      ((ofText "one").run ["1d", "q", "a", "q", "."]).Quits "q" true ∧
      (((ofText "one").run ["1d", "q", "a", "q", "."]).next "q").session.ended = true ∧
      ∃ output, ((ofText "one").run ["1d", "q", "a", "q", "."]).answer "q" = .ok output ∧
        output.kind = .ended := by
  have own : LaunchOptions.UsesOwn { buffer? := some (.ofText "one") } := .inr ⟨rfl, rfl⟩
  have success := launch_ofText "one"
  have accepts : ∀ lines, ((ofText "one").run lines).AcceptsLine "q" := by
    intro lines
    exact .inl (by decide +kernel)
  obtain ⟨-, -, refused, -⟩ := quits_exactly own success ["1d"]
  obtain ⟨answer, -, goesOn⟩ := refused (by decide +kernel) "q" (by decide +kernel)
    (by decide +kernel) (accepts _) (by decide +kernel) (by decide +kernel)
  have shown : ((ofText "one").run ["1d"]).session.errorMarker "buffer modified" = ["?"] := by
    decide +kernel
  rw [shown] at answer
  have quits : ((ofText "one").run ["1d", "q", "a", "q", "."]).Quits "q" true :=
    ⟨by decide +kernel, accepts _, .inr ⟨by decide +kernel, .inr rfl⟩⟩
  obtain ⟨-, iff, -, kind, -⟩ := quits_exactly own success ["1d", "q", "a", "q", "."]
  have warned : (ofText "one").warned ["1d", "q", "a", "q", "."] = true := by decide +kernel
  have ended := (iff (by decide +kernel) "q").mpr (by rw [warned]; exact quits)
  exact ⟨own, success, answer, goesOn, quits, ended, (kind "q").mpr ended⟩

end LineEditor.Editor

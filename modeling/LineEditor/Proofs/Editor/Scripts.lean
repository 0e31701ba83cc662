import LineEditor.Proofs.Editor.Quitting

/-!
# Conversations

Lines that are submitted one after the other while the session goes on, with
what is shown of them, form a conversation (`Editor.Converses`).  What is shown
before a line is the prompt, if prompts are shown and a command is awaited
(`Editor.Converses.prompts`).  A script submits lines until the session ends, so
it answers with the conversation that it holds, whatever comes behind its end
(`Editor.Converses.script`).

Every conversation can be brought to an end: by the end of the text if one is
being entered, and by quitting, which is refused at most once
(`Editor.Reachable.closes`).
-/

set_option autoImplicit false

namespace LineEditor

/-- A line that has been answered: the prompt shown before it, and the answer. -/
structure Exchange where
  prompt : String
  output : Output
  deriving DecidableEq

/-- What an exchange shows: the prompt, and the lines of the answer, each followed by a line
feed. -/
def Exchange.shown (exchange : Exchange) : String :=
  exchange.prompt ++ Text.joinLines exchange.output.lines

/-- What is shown of a conversation. -/
def transcript (exchanges : List Exchange) : String :=
  String.join (exchanges.map Exchange.shown)

namespace Editor

/-- Every one of a sequence of lines is answered; no fault escapes. -/
def Answered (editor : Editor) : List String → Prop
  | [] => True
  | raw :: rest => (∃ output, editor.answer raw = .ok output) ∧ (editor.next raw).Answered rest

/-- No fault of a kind escapes from any of a sequence of lines. -/
def Spared (kind : Fault → Prop) (editor : Editor) : List String → Prop
  | [] => True
  | raw :: rest =>
    (∀ fault, editor.answer raw = .error fault → ¬kind fault) ∧ (editor.next raw).Spared kind rest

/-- Lines are answered if no fault escapes and what they ask of the outside comes back. -/
theorem Spared.answered {lines : List String} :
    ∀ {editor : Editor}, editor.Spared (· ≠ .neverReturns) lines →
      editor.Spared (· = .neverReturns) lines → editor.Answered lines := by
  induction lines with
  | nil => exact fun _ _ => trivial
  | cons raw rest ih =>
      intro editor unraised returning
      refine ⟨?_, ih unraised.2 returning.2⟩
      cases answer : editor.answer raw with
      | ok output => exact ⟨output, rfl⟩
      | error fault => exact absurd (returning.1 fault answer) (unraised.1 fault answer)

theorem Answered.spared (kind : Fault → Prop) {lines : List String} :
    ∀ {editor : Editor}, editor.Answered lines → editor.Spared kind lines := by
  induction lines with
  | nil => exact fun _ => trivial
  | cons raw rest ih =>
      rintro editor ⟨⟨output, answered⟩, later⟩
      refine ⟨fun fault escapes => ?_, ih later⟩
      rw [answered] at escapes
      cases escapes

theorem answer_isSome_iff (editor : Editor) (raw : String) :
    (editor.answer raw).toOption.isSome = true ↔ ∃ output, editor.answer raw = .ok output := by
  cases editor.answer raw <;> simp [Except.toOption]

instance decidableAnswered : ∀ (lines : List String) (editor : Editor),
    Decidable (editor.Answered lines)
  | [], _ => .isTrue trivial
  | raw :: rest, editor =>
    have : Decidable ((editor.next raw).Answered rest) := decidableAnswered rest _
    decidable_of_iff ((editor.answer raw).toOption.isSome = true ∧ (editor.next raw).Answered rest)
      (and_congr_left' (editor.answer_isSome_iff raw))

/-- Lines that are submitted while the session goes on, and all answered. -/
inductive Converses : Editor → List String → List Exchange → Editor → Prop
  | done (editor : Editor) : Converses editor [] [] editor
  | line {editor final : Editor} {raw : String} {output : Output} {rest : List String}
      {exchanges : List Exchange} (goesOn : editor.session.ended = false)
      (answered : editor.answer raw = .ok output)
      (later : Converses (editor.next raw) rest exchanges final) :
      Converses editor (raw :: rest) (⟨editor.prompt, output⟩ :: exchanges) final

variable {editor final : Editor} {lines : List String} {exchanges : List Exchange}

theorem Converses.run (converses : editor.Converses lines exchanges final) :
    editor.run lines = final := by
  induction converses with
  | done editor => rfl
  | line goesOn answered later ih => exact ih

/-- The prompt stands before a line if prompts are shown then and a command is awaited, and else
nothing does. -/
theorem Converses.prompts (converses : editor.Converses lines exchanges final) :
    editor.Reachable → ∀ index < lines.length,
      let before := editor.run (lines.take index)
      exchanges[index]?.map Exchange.prompt = some
        (if before.session.promptVisible = true ∧ before.session.mode = .command
          then editor.config.prompt else "") := by
  induction converses with
  | done editor => exact fun _ _ inside => absurd inside (Nat.not_lt_zero _)
  | @line editor final raw output rest exchanges goesOn answered later ih =>
      intro reachable index inside
      cases index with
      | zero => rfl
      | succ index =>
          have config : (editor.next raw).config = editor.config :=
            (reachable.equipped.effect goesOn raw).kept.config
          have shown := ih (reachable.submitted raw) index (Nat.lt_of_succ_lt_succ inside)
          rwa [config] at shown

/-- A script answers with the conversation that its lines make, up to the end of the session. -/
theorem Converses.script (converses : editor.Converses lines exchanges final)
    {skipped : List String} (done : skipped = [] ∨ final.session.ended = true)
    (goesOn : editor.session.ended = false) :
    (EditorM.runScript (lines ++ skipped)).runOn editor =
      (.ok (exchanges.map Exchange.output), final) := by
  induction converses with
  | done editor =>
      obtain rfl := done.resolve_right (by rw [goesOn]; decide)
      rfl
  | @line editor final raw output rest exchanges goesOn answered later ih =>
      have submitted : (EditorM.submit raw).runOn editor = (.ok output, editor.next raw) :=
        Prod.ext answered rfl
      rw [List.cons_append, EditorM.runScript, EditorM.runOn_bind, submitted]
      simp only [EditorM.runOn_bind, EditorM.runOn_get]
      cases ended : (editor.next raw).session.ended with
      | true =>
          cases later with
          | done => simp
          | line goesOn =>
              rw [ended] at goesOn
              cases goesOn
      | false =>
          simp only [Bool.false_eq_true, if_false, EditorM.runOn_bind, ih done ended,
            EditorM.runOn_pure, List.map_cons]

/-! ## Bringing a session to an end -/

/-- The line that asks to quit. -/
def quitLine : String := "q"

/-- The lines that quit: asking for it once, and once more if that is refused. -/
def quittingLines (editor : Editor) : List String :=
  if editor.refusesQuit quitLine then [quitLine, quitLine] else [quitLine]

/-- The lines that bring a session to its end, if it goes on: the end of the text if one is being
entered, and then those that quit. -/
def closingLines (editor : Editor) : List String :=
  if editor.session.ended then []
  else if editor.session.mode = .text then
    "." :: (editor.next ".").quittingLines
  else editor.quittingLines

theorem length_quittingLines_le (editor : Editor) : editor.quittingLines.length ≤ 2 := by
  rw [quittingLines]
  split
  · exact Nat.le_refl 2
  · exact Nat.le_succ 1

theorem length_closingLines_le (editor : Editor) : editor.closingLines.length ≤ 3 := by
  rw [closingLines]
  split
  · exact Nat.zero_le 3
  split
  · exact Nat.succ_le_succ (length_quittingLines_le _)
  · exact Nat.le_succ_of_le (length_quittingLines_le _)

/-- A conversation up to the end of the session in which every line is what the end of the input
stands for. -/
inductive Closes : Editor → List String → List Exchange → Editor → Prop
  | ended {editor : Editor} (ended : editor.session.ended = true) : Closes editor [] [] editor
  | line {editor final : Editor} {raw : String} {output : Output} {rest : List String}
      {exchanges : List Exchange} (goesOn : editor.session.ended = false)
      (closing : raw = Console.Host.closingLine editor) (answered : editor.answer raw = .ok output)
      (later : Closes (editor.next raw) rest exchanges final) :
      Closes editor (raw :: rest) (⟨editor.prompt, output⟩ :: exchanges) final

theorem closingLine_command (awaiting : editor.session.mode = .command) :
    quitLine = Console.Host.closingLine editor := by
  rw [Console.Host.closingLine, if_neg (by rw [awaiting]; decide)]
  decide

/-- Asking to quit ends the session, or it is refused, and then it has not been refused before. -/
theorem Equipped.quitLine_cases (equipped : editor.Equipped)
    (goesOn : editor.session.ended = false) (awaiting : editor.session.mode = .command) :
    (editor.refusesQuit quitLine = false ∧ editor.answer quitLine = .ok { kind := .ended } ∧
      (editor.next quitLine).session.ended = true) ∨
    (editor.refusesQuit quitLine = true ∧ editor.session.quitState ≠ .refusedOnce ∧
      editor.answer quitLine = .ok (editor.refusalOutput .unsavedChanges) ∧
      (editor.next quitLine).session =
        { editor.session with
          lastError := Refusal.unsavedChanges.message
          quitState := .refusedOnce }) := by
  have letter : submittedLetter? quitLine = some quitLetter := by decide
  have accepted : editor.AcceptsLine quitLine := .inl (by decide)
  have effect := equipped.effect goesOn quitLine
  rw [refusesQuit]
  revert effect
  generalize editor.answer quitLine = outcome
  generalize editor.next quitLine = after
  intro effect
  cases effect with
  | passed candid kind quitless =>
      exact absurd accepted.accepts (quitless awaiting (.inl letter)).1
  | saved awaiting otherLetter =>
      rw [letter] at otherLetter
      cases otherLetter
  | warned awaiting letter accepted modified first kept buffer session events =>
      refine .inr ⟨?_, first, rfl, session⟩
      simp [awaiting, letter, events, refusalOutput]
  | ended awaiting letter accepted kept buffer ended =>
      refine .inl ⟨?_, rfl, ended⟩
      simp

/-- Quitting takes one line or two, and no fault escapes. -/
theorem Reachable.quits (reachable : editor.Reachable) (goesOn : editor.session.ended = false)
    (awaiting : editor.session.mode = .command) :
    ∃ exchanges final, editor.Closes editor.quittingLines exchanges final := by
  have closing := closingLine_command awaiting
  rw [quittingLines]
  rcases reachable.equipped.quitLine_cases goesOn awaiting with
    ⟨accepts, answered, ended⟩ | ⟨refuses, -, answered, session⟩
  · rw [if_neg (by rw [accepts]; decide)]
    exact ⟨_, _, .line goesOn closing answered (.ended ended)⟩
  · have goesOn' : (editor.next quitLine).session.ended = false := by
      rw [session]
      exact goesOn
    have awaiting' : (editor.next quitLine).session.mode = .command := by
      rw [session]
      exact awaiting
    rcases (reachable.submitted quitLine).equipped.quitLine_cases goesOn' awaiting' with
      ⟨-, answered', ended⟩ | ⟨-, first, -⟩
    · rw [if_pos refuses]
      exact ⟨_, _, .line goesOn closing answered
        (.line goesOn' (closingLine_command awaiting') answered' (.ended ended))⟩
    · -- A second refusal would have to be the first one.
      rw [session] at first
      exact absurd rfl first

/-- The end of a text that is being entered leads back to the command mode. -/
theorem TextReady.textEnd (ready : editor.TextReady) :
    editor.answer EditorM.textEnd = .ok { kind := .none } ∧
      (editor.next EditorM.textEnd).session = { editor.session with mode := .command } := by
  obtain ⟨answered, step⟩ := ready.step EditorM.textEnd
  cases step with
  | entered other => exact absurd (by decide) other
  | closed ends kept buffer committed pending session => exact ⟨answered, session⟩

/-- **Every session can be brought to its end.**  No fault escapes from the lines that do it. -/
theorem Reachable.closes (reachable : editor.Reachable) :
    ∃ exchanges final, editor.Closes editor.closingLines exchanges final := by
  rw [closingLines]
  cases goesOn : editor.session.ended with
  | true => exact ⟨[], editor, .ended goesOn⟩
  | false =>
      cases mode : editor.session.mode with
      | command => exact reachable.quits goesOn mode
      | text =>
          obtain ⟨ready, -⟩ := reachable.sound.textReady mode
          obtain ⟨answered, session⟩ := ready.textEnd
          obtain ⟨exchanges, final, closes⟩ := (reachable.submitted EditorM.textEnd).quits
            (by rw [session]; exact goesOn) (by rw [session])
          have closing : EditorM.textEnd = Console.Host.closingLine editor := by
            rw [Console.Host.closingLine, if_pos mode]
          exact ⟨_, final, .line goesOn closing answered closes⟩

end Editor

end LineEditor

import LineEditor.Proofs.Editor.Filing
import LineEditor.Proofs.Editor.Performing
import LineEditor.Proofs.Editor.RolledBack
import LineEditor.Proofs.Editor.Scripts
import LineEditor.Proofs.Substitution

/-!
# The remembered search

A completed command line evaluates its addresses one after the other, then the
destination if it moves or copies lines, and then the pattern if it substitutes.
What the session remembers after it is the pattern of the last search among them
(`CommandLine.recalled`); an empty pattern means what is remembered at the time.
A line that fails leaves alone what is remembered, and so does a line of a text
(`Editor.Reachable.remembers`).
-/

set_option autoImplicit false

namespace LineEditor

open Address (recalled Evaluated AllEvaluated)

/-- The address token behind the letter: the destination if lines are moved or copied. -/
def CommandLine.destinations (line : CommandLine) : List String :=
  if line.letter? = some 'm' ∨ line.letter? = some 't' then [Text.strip line.args] else []

/-- The address tokens of a line in the order in which they are resolved. -/
def CommandLine.tokens (line : CommandLine) : List String :=
  [line.first, line.second] ++ line.destinations

/-- What is remembered after a line: the pattern of the last search on it, or else that of its
substitution. -/
def CommandLine.recalled (line : CommandLine) (last? : Option Substitution)
    (remembered? : Option String) : Option String :=
  let sought? := line.tokens.foldl Address.recalled remembered?
  if line.letter? = some 's' then Substitution.pattern? line.args last? sought? else sought?

/-- A line has an empty pattern for which nothing is remembered at the time. -/
def CommandLine.Unmeant (line : CommandLine) (remembered? : Option String) : Prop :=
  (∃ front token back isForward, line.tokens = front ++ token :: back ∧
    front.foldl Address.recalled remembered? = none ∧
    Address.searched? token = some (isForward, [])) ∨
  (line.letter? = some 's' ∧ ∃ replacement suffix,
    Substitution.fields line.args = .ok ([], replacement, suffix) ∧
    line.tokens.foldl Address.recalled remembered? = none)

namespace EditorM

variable {editor : Editor} {spec : CommandSpec} {invocation : Invocation}

/-! ## Evaluating -/

theorem ensures_resolveAddress_recalled (token : String) (editor : Editor) :
    (resolveAddress token).Ensures editor
      (fun _ after => editor.Sought after ∧
        after.session.lastSearch? = recalled editor.session.lastSearch? token ∧
        Evaluated editor.platform.engine editor.buffer editor.session.lastSearch? token)
      (fun _ _ => True) := by
  simp only [resolveAddress, ensures_bind, ensures_get, ensures_modifySession, ensures_lift]
  refine ⟨fun value resolved => ?_, fun _ _ => trivial⟩
  obtain ⟨remembered, evaluated⟩ := Address.resolve_recalled resolved
  exact ⟨⟨_, _, rfl⟩, remembered, evaluated⟩

theorem ensures_resolveToken_recalled (token : String) (editor : Editor) :
    (resolveToken token).Ensures editor
      (fun _ after => editor.Sought after ∧
        after.session.lastSearch? = recalled editor.session.lastSearch? token ∧
        Evaluated editor.platform.engine editor.buffer editor.session.lastSearch? token)
      (fun _ _ => True) := by
  rw [resolveToken]
  split
  · rename_i empty
    obtain rfl : token = "" := by simpa using empty
    rw [ensures_pure]
    exact ⟨.refl editor, rfl, Address.evaluated_empty⟩
  · simp only [ensures_bind, ensures_pure]
    exact ensures_resolveAddress_recalled token editor

/-- Planning evaluates the addresses in front of the letter. -/
theorem ensures_plan_recalled (line : CommandLine) (editor : Editor) :
    (plan line).Ensures editor
      (fun _ after =>
        after.session.lastSearch? =
          [line.first, line.second].foldl recalled editor.session.lastSearch? ∧
        AllEvaluated editor.platform.engine editor.buffer editor.session.lastSearch?
          [line.first, line.second])
      (fun _ _ => True) := by
  simp only [plan, resolveLines, ensures_bind, ensures_get, ensures_lift]
  refine (ensures_resolveToken_recalled line.first editor).mono ?_ (fun _ _ _ => trivial)
  rintro start? one ⟨soughtOne, first, evaluatedFirst⟩
  refine (ensures_resolveToken_recalled line.second one).mono ?_ (fun _ _ _ => trivial)
  rintro finish? two ⟨soughtTwo, second, evaluatedSecond⟩
  rw [soughtOne.framed.platform, soughtOne.buffer, first] at evaluatedSecond
  rw [first] at second
  refine ⟨fun lines _ => ?_, fun _ _ => trivial⟩
  have evaluated : two.session.lastSearch? =
      [line.first, line.second].foldl recalled editor.session.lastSearch? ∧
      AllEvaluated editor.platform.engine editor.buffer editor.session.lastSearch?
        [line.first, line.second] :=
    ⟨second, evaluatedFirst, evaluatedSecond, trivial⟩
  simp only [bindRequest, ensures_bind, ensures_get]
  split
  · rw [ensures_pure]
    exact evaluated
  · simp only [ensures_bind, ensures_lift, ensures_pure]
    exact ⟨fun _ _ => evaluated, fun _ _ => trivial⟩

/-- A destination is evaluated. -/
theorem ensures_destination_recalled (args : String) (editor : Editor) :
    (destination args).Ensures editor
      (fun _ after =>
        after.session.lastSearch? = recalled editor.session.lastSearch? (Text.strip args) ∧
        Evaluated editor.platform.engine editor.buffer editor.session.lastSearch? (Text.strip args))
      (fun _ _ => True) := by
  have evaluated :
      (resolveAddress (if (Text.strip args).isEmpty then "." else Text.strip args)).Ensures editor
      (fun _ after =>
        after.session.lastSearch? = recalled editor.session.lastSearch? (Text.strip args) ∧
        Evaluated editor.platform.engine editor.buffer editor.session.lastSearch? (Text.strip args))
      (fun _ _ => True) := by
    split
    · rename_i empty
      have isEmpty : Text.strip args = "" := by simpa using empty
      rw [isEmpty]
      exact (ensures_resolveAddress_recalled "." editor).mono
        (fun _ _ ensured => ⟨ensured.2.1, Address.evaluated_empty⟩) (fun _ _ _ => trivial)
    · exact (ensures_resolveAddress_recalled _ editor).mono (fun _ _ ensured => ensured.2)
        (fun _ _ _ => trivial)
  simp only [destination, ensures_bind, ensures_get, ensures_ite, ensures_refuse, ensures_pure]
  exact evaluated.mono (fun _ _ ensured => ⟨fun _ => trivial, fun _ => ensured⟩)
    (fun _ _ _ => trivial)

/-! ## Invoking -/

/-- What a handler replies and does to the session is replied and done by invoking its command,
which starts it on the same platform for the same document, the same current line and the same
session. -/
theorem ensures_invoke_session {onResult : Reply → Session → Prop}
    {onFault : Fault → Session → Prop}
    (ensured : ∀ before : Editor, before.platform = editor.platform →
      before.session = editor.session →
      before.buffer.document = editor.buffer.document →
      before.buffer.current = editor.buffer.current →
      (spec.handler.run invocation).Ensures before
        (fun reply after => onResult reply after.session)
        (fun fault after => onFault fault after.session)) :
    (invoke spec invocation).Ensures editor (fun reply after => onResult reply after.session)
      (fun fault after => onFault fault after.session) := by
  rw [invoke]
  split
  · rw [ensures_transaction, call, ensures_span]
    refine (ensured { editor.enterTransaction spec.letter.toString with journal := _ } rfl rfl
      (editor.buffer.enter_keeps _).1 (editor.buffer.enter_current _)).mono ?_ ?_
    · intro reply inner accepted
      split
      · exact accepted
      · rw [Editor.leaveTransaction_session]
        exact accepted
    · intro fault inner failed
      rw [Editor.leaveTransaction_session]
      exact failed
  · rw [call, ensures_span]
    exact ensured _ rfl rfl rfl rfl

/-- A command that moves or copies lines evaluates its destination. -/
theorem ensures_invoke_destination
    (handler : spec.handler = .builtin .moveLines ∨ spec.handler = .builtin .copyLines) :
    (invoke spec invocation).Ensures editor
      (fun _ after =>
        after.session.lastSearch? =
          recalled editor.session.lastSearch? (Text.strip invocation.args) ∧
        Evaluated editor.platform.engine editor.buffer editor.session.lastSearch?
          (Text.strip invocation.args))
      (fun _ _ => True) := by
  refine @ensures_invoke_session _ _ _ (fun _ session => session.lastSearch? = _ ∧ _)
    (fun _ _ => True) fun before platform session document current => ?_
  have evaluated : (destination invocation.args).Ensures before
      (fun _ after =>
        after.session.lastSearch? =
          recalled editor.session.lastSearch? (Text.strip invocation.args) ∧
        Evaluated editor.platform.engine editor.buffer editor.session.lastSearch?
          (Text.strip invocation.args))
      (fun _ _ => True) := by
    refine (ensures_destination_recalled invocation.args before).mono ?_ (fun _ _ _ => trivial)
    rw [platform, session]
    exact fun _ _ ensured => ⟨ensured.1, ensured.2.congr document.symm current.symm⟩
  rcases handler with handler | handler
  · rw [handler]
    simp only [Handler.run, Builtin.run, moveLines, ensures_bind, ensures_get, ensures_ite,
      ensures_refuse, ensures_modifyBuffer, ensures_pure, implies_true, and_true, true_and]
    exact evaluated.mono (fun _ _ ensured => fun _ => ⟨fun _ _ _ => ensured, fun _ => ensured⟩)
      (fun _ _ _ => trivial)
  · rw [handler]
    simp only [Handler.run, Builtin.run, copyLines, ensures_bind, ensures_get, ensures_ite,
      ensures_modifyBuffer, ensures_pure, implies_true, and_true]
    exact evaluated.mono (fun _ _ ensured => ⟨fun _ _ _ => ensured, fun _ => ensured⟩)
      (fun _ _ _ => trivial)

/-- A command that substitutes remembers what it has read and its pattern. -/
theorem ensures_invoke_substitute (handler : spec.handler = .builtin .substitute) :
    (invoke spec invocation).Ensures editor
      (fun _ after => ∃ substitution,
        Substitution.read editor.platform.engine invocation.args
          editor.session.lastSubstitution? editor.session.lastSearch? = .ok substitution ∧
        after.session.lastSubstitution? = some substitution ∧
        after.session.lastSearch? = some substitution.pattern)
      (fun _ _ => True) := by
  refine @ensures_invoke_session _ _ _ (fun _ after => ∃ substitution,
    Substitution.read _ _ _ _ = .ok substitution ∧ after.lastSubstitution? = some substitution ∧
      after.lastSearch? = some substitution.pattern) (fun _ _ => True)
    fun before platform session _ _ => ?_
  rw [handler, ← platform, ← session]
  simp only [Handler.run, Builtin.run, substitute, ensures_bind, ensures_get, ensures_lift]
  refine ⟨fun substitution success => ⟨fun changes _ => ?_, fun _ _ => trivial⟩,
    fun _ _ => trivial⟩
  split
  · exact (ensures_refuse _).mpr trivial
  · simp only [ensures_bind, ensures_modifyBuffer, setCurrent, ensures_modifySession, ensures_pure,
      implies_true, and_true]
    exact fun _ _ _ _ => ⟨substitution, success, rfl, rfl⟩

end EditorM

/-- The commands that search: those that move or copy lines, and the one that substitutes. -/
theorem Registry.own_searching : ∀ spec ∈ Registry.ownCommands,
    if spec.letter = 'm' ∨ spec.letter = 't' then
      spec.handler = .builtin .moveLines ∨ spec.handler = .builtin .copyLines
    else if spec.letter = 's' then spec.handler = .builtin .substitute
    else .lastSearch ∉ spec.parts := by
  decide

theorem Registry.own_searching_bound : ∀ letter ∈ ['m', 't', 's'],
    (Registry.own.find? letter).isSome = true :=
  List.all_eq_true.mp (by decide)

namespace EditorM

variable {editor : Editor} {line : CommandLine} {request : Request}

/-- What is carried out evaluates the destination and then reads the substitution, as far as the
line has them. -/
theorem ensures_carryOut_recalled (own : editor.registry = Registry.own)
    (bound : request.Bound line editor)
    (given : ∀ spec invocation, request = .invoke spec invocation → invocation.args = line.args) :
    (carryOut line request).Ensures editor
      (fun _ after =>
        AllEvaluated editor.platform.engine editor.buffer editor.session.lastSearch?
          line.destinations ∧
        (line.letter? ≠ some 's' → after.session.lastSearch? =
          line.destinations.foldl recalled editor.session.lastSearch?) ∧
        (line.letter? = some 's' → ∃ substitution,
          Substitution.read editor.platform.engine line.args editor.session.lastSubstitution?
            (line.destinations.foldl recalled editor.session.lastSearch?) = .ok substitution ∧
          after.session.lastSubstitution? = some substitution ∧
          after.session.lastSearch? = some substitution.pattern))
      (fun _ _ => True) := by
  cases request with
  | visit first? last? =>
      simp only [Request.Bound, own] at bound
      have other : ∀ letter ∈ ['m', 't', 's'], line.letter? ≠ some letter := by
        intro letter member isLetter
        rw [isLetter, Option.bind_some] at bound
        have isBound := Registry.own_searching_bound letter member
        rw [bound] at isBound
        cases isBound
      have none : line.destinations = [] := by
        rw [CommandLine.destinations, if_neg]
        rintro (isMove | isCopy)
        · exact other 'm' (by decide) isMove
        · exact other 't' (by decide) isCopy
      rw [none]
      have untouched : (navigate line first? last?).Steps (Editor.Untouched []) :=
        untouched_navigate line first? last?
      refine (untouched editor).mono ?_ (fun _ _ _ => trivial)
      exact fun _ _ kept => ⟨trivial, fun _ => kept.1 .lastSearch (by decide),
        fun same => absurd same (other 's' (by decide))⟩
  | invoke spec invocation =>
      simp only [Request.Bound, own] at bound
      obtain ⟨letter, isLetter, isBound⟩ := Option.bind_eq_some_iff.mp bound
      obtain ⟨isOwn, rfl⟩ := Registry.find?_own isBound
      have args := given spec invocation rfl
      have handlers := Registry.own_searching spec isOwn
      simp only [CommandLine.destinations, isLetter, Option.some.injEq, ne_eq, ← args]
      split at handlers
      · rename_i moves
        rw [if_pos moves]
        refine (ensures_invoke_destination handlers).mono ?_ (fun _ _ _ => trivial)
        rintro reply after ⟨remembered, evaluated⟩
        refine ⟨⟨evaluated, trivial⟩, fun _ => remembered, ?_⟩
        intro same
        rw [same] at moves
        exact absurd moves (by decide)
      · rename_i stays
        rw [if_neg stays]
        split at handlers
        · rename_i substitutes
          refine (ensures_invoke_substitute handlers).mono ?_ (fun _ _ _ => trivial)
          exact fun _ _ remembered => ⟨trivial, fun other => absurd substitutes other,
            fun _ => remembered⟩
        · rename_i other
          refine (untouched_invoke isOwn editor).mono ?_ (fun _ _ _ => trivial)
          exact fun _ _ untouched => ⟨trivial, fun _ => untouched.1 .lastSearch handlers,
            fun same => absurd same other⟩

end EditorM

namespace Editor

variable {editor middle inner : Editor} {raw : String} {request : EditorM.Request} {reply : Reply}
  {output : Output}

/-- A completed line has evaluated the addresses in front of the letter. -/
theorem Completed.evaluated_ahead
    (completed : editor.Completed raw request middle reply inner output) {line : CommandLine}
    (isLine : CommandLine.scan (withoutLineEnd raw) = line) :
    middle.session.lastSearch? =
        [line.first, line.second].foldl recalled editor.session.lastSearch? ∧
      AllEvaluated editor.platform.engine editor.buffer editor.session.lastSearch?
        [line.first, line.second] := by
  obtain ⟨journal, planned⟩ := completed.planned
  rw [isLine] at planned
  exact (EditorM.ensures_plan_recalled line (editor.told raw journal)).result planned

/-- A completed line has evaluated its destination and then read its substitution, as far as it has
them. -/
theorem Completed.evaluated_behind
    (completed : editor.Completed raw request middle reply inner output)
    (own : editor.registry = Registry.own) {line : CommandLine}
    (isLine : CommandLine.scan (withoutLineEnd raw) = line) :
    AllEvaluated editor.platform.engine editor.buffer middle.session.lastSearch? line.destinations ∧
      (line.letter? ≠ some 's' → inner.session.lastSearch? =
        line.destinations.foldl recalled middle.session.lastSearch?) ∧
      (line.letter? = some 's' → ∃ substitution,
        Substitution.read editor.platform.engine line.args editor.session.lastSubstitution?
          (line.destinations.foldl recalled middle.session.lastSearch?) = .ok substitution ∧
        inner.session.lastSubstitution? = some substitution ∧
        inner.session.lastSearch? = some substitution.pattern) := by
  obtain ⟨journal, sought, bound⟩ := completed.sought
  obtain ⟨journal', planned⟩ := completed.planned
  have given := (EditorM.ensures_plan_given (withoutLineEnd raw) (editor.told raw journal')).result
    planned
  have carriedOut := completed.carriedOut
  rw [isLine] at bound given carriedOut
  have isBound : request.Bound line middle := by
    unfold EditorM.Request.Bound at bound ⊢
    rwa [sought.registry]
  have last : middle.session.lastSubstitution? = editor.session.lastSubstitution? :=
    completed.planned_same .lastSubstitution (by decide)
  have ensured := (EditorM.ensures_carryOut_recalled (sought.registry.trans own) isBound
    fun spec invocation same => (given spec invocation same).1).result carriedOut
  rwa [sought.framed.platform, sought.buffer, last] at ensured

/-- **What a completed line evaluates, and what is remembered after it.** -/
theorem Completed.recalled (completed : editor.Completed raw request middle reply inner output)
    (own : editor.registry = Registry.own) {line : CommandLine}
    (isLine : CommandLine.scan (withoutLineEnd raw) = line) :
    AllEvaluated editor.platform.engine editor.buffer editor.session.lastSearch? line.tokens ∧
      (editor.next raw).session.lastSearch? =
        line.recalled editor.session.lastSubstitution? editor.session.lastSearch? ∧
      (line.letter? = some 's' → ∃ substitution,
        Substitution.read editor.platform.engine line.args editor.session.lastSubstitution?
          (line.tokens.foldl Address.recalled editor.session.lastSearch?) = .ok substitution ∧
        (editor.next raw).session.lastSubstitution? = some substitution) := by
  obtain ⟨ahead, evaluatedAhead⟩ := completed.evaluated_ahead isLine
  obtain ⟨evaluated, others, substitutes⟩ := completed.evaluated_behind own isLine
  have remembered : (editor.next raw).session.lastSearch? = inner.session.lastSearch? :=
    completed.concluded_same .lastSearch (by decide)
  have last : (editor.next raw).session.lastSubstitution? = inner.session.lastSubstitution? :=
    completed.concluded_same .lastSubstitution (by decide)
  rw [ahead] at evaluated others substitutes
  refine ⟨(Address.allEvaluated_append _ _).mpr ⟨evaluatedAhead, evaluated⟩, ?_, ?_⟩
  · rw [remembered, CommandLine.recalled]
    split
    · rename_i isSubstitution
      obtain ⟨substitution, read, -, pattern⟩ := substitutes isSubstitution
      rw [pattern]
      exact (Substitution.read_pattern read).symm
    · rename_i other
      exact others other
  · intro isSubstitution
    obtain ⟨substitution, read, isLast, -⟩ := substitutes isSubstitution
    exact ⟨substitution, read, last.trans isLast⟩

end Editor

/-- An empty pattern for which nothing is remembered is never evaluated. -/
theorem CommandLine.not_unmeant {engine : Pattern.Engine} {line : CommandLine} {buffer : Buffer}
    {remembered? : Option String} {last? : Option Substitution}
    (evaluated : AllEvaluated engine buffer remembered? line.tokens)
    (substitutes : line.letter? = some 's' → ∃ substitution,
      Substitution.read engine line.args last? (line.tokens.foldl Address.recalled remembered?) =
        .ok substitution) :
    ¬line.Unmeant remembered? := by
  rintro (⟨front, token, back, isForward, tokens, nothing, searched⟩ |
    ⟨isSubstitution, replacement, suffix, fields, nothing⟩)
  · rw [tokens, Address.allEvaluated_append, nothing] at evaluated
    obtain ⟨at_, text, compiled, asks, -⟩ := evaluated.2.1 isForward [] searched
    cases asks
  · obtain ⟨substitution, read⟩ := substitutes isSubstitution
    have meant := Substitution.read_pattern read
    have given : line.args ≠ "" := by
      intro bare
      rw [bare] at fields
      cases fields
    rw [Substitution.pattern?, if_neg given, fields, nothing] at meant
    cases meant

namespace Editor

/-- Whether a line is carried out as a command. -/
def carriesOut (editor : Editor) (raw : String) : Bool :=
  editor.session.mode == .command && editor.completes (editor.answer raw)

/-- The pattern that is used last in a run on a line that is carried out, or else the given one. -/
def lastPattern? (editor : Editor) (remembered? : Option String) : List String → Option String
  | [] => remembered?
  | raw :: rest =>
    (editor.next raw).lastPattern?
      (if editor.carriesOut raw then
        (CommandLine.scan (withoutLineEnd raw)).recalled editor.session.lastSubstitution?
          remembered?
      else remembered?) rest

variable {editor : Editor} {raw : String} {output : Output}

theorem carriesOut_iff : editor.carriesOut raw = true ↔
    editor.session.mode = .command ∧ editor.session.ended = false ∧
      ∃ output, editor.answer raw = .ok output ∧ output.kind ≠ .error := by
  rw [carriesOut, Bool.and_eq_true, beq_iff_eq, completes_iff]

/-- What is remembered after a line that is carried out. -/
theorem Reachable.recalled (reachable : editor.Reachable) (carries : editor.carriesOut raw = true)
    {line : CommandLine} (isLine : CommandLine.scan (withoutLineEnd raw) = line) :
    AllEvaluated editor.platform.engine editor.buffer editor.session.lastSearch? line.tokens ∧
      (editor.next raw).session.lastSearch? =
        line.recalled editor.session.lastSubstitution? editor.session.lastSearch? ∧
      (line.letter? = some 's' → ∃ substitution,
        Substitution.read editor.platform.engine line.args editor.session.lastSubstitution?
          (line.tokens.foldl Address.recalled editor.session.lastSearch?) = .ok substitution ∧
        (editor.next raw).session.lastSubstitution? = some substitution) := by
  obtain ⟨awaiting, goesOn, output, answered, succeeded⟩ := carriesOut_iff.mp carries
  have ready := reachable.sound.commandReady awaiting
  have awaits : editor.AwaitsCommand := ⟨ready.modes.active_command awaiting, goesOn⟩
  obtain ⟨request, middle, reply, inner, completed⟩ := awaits.completed answered succeeded
  exact completed.recalled ready.registry isLine

/-- A line that fails, a line of a text and a line after the end leave alone what is remembered. -/
theorem Reachable.next_lastSearch (reachable : editor.Reachable)
    (answered : editor.answer raw = .ok output)
    (idle : output.kind = .error ∨ editor.session.mode = .text ∨ editor.session.ended = true) :
    (editor.next raw).session.lastSearch? = editor.session.lastSearch? := by
  cases ended : editor.session.ended with
  | true => rw [(submit_ended ended raw).2]
  | false =>
      cases mode : editor.session.mode with
      | text =>
          obtain ⟨ready, -⟩ := reachable.sound.textReady mode
          cases (ready.step raw).2 with
          | entered other kept buffer lines pending session => rw [session]
          | closed ends kept buffer committed pending session => rw [session]
      | command =>
          have failed : output.kind = .error := by
            rcases idle with failed | entering | isEnded
            · exact failed
            · exact absurd (mode.symm.trans entering) (by decide)
            · exact absurd (ended.symm.trans isEnded) (by decide)
          have step := (reachable.sound.commandReady mode).step ended raw
          rw [answered] at step
          cases step with
          | refused steady session => rw [session]
          | consulted kept other buffer pending session succeeded => exact absurd failed succeeded
          | committed kept other buffer pending session succeeded => exact absurd failed succeeded
          | opened => cases failed
          | undone => cases failed

theorem carriesOut_eq_false (answered : editor.answer raw = .ok output)
    (idle : editor.carriesOut raw = false) :
    output.kind = .error ∨ editor.session.mode = .text ∨ editor.session.ended = true := by
  by_contra busy
  simp only [not_or] at busy
  obtain ⟨succeeded, other, goesOn⟩ := busy
  have awaiting : editor.session.mode = .command := by
    cases mode : editor.session.mode with
    | command => rfl
    | text => exact absurd mode other
  have carries : editor.carriesOut raw = true := carriesOut_iff.mpr
    ⟨awaiting, by simpa using goesOn, output, answered, succeeded⟩
  rw [carries] at idle
  cases idle

/-- A run of answered lines remembers the pattern that is used last in it. -/
theorem Reachable.run_lastSearch (lines : List String) :
    ∀ {editor : Editor}, editor.Reachable → editor.Answered lines →
      (editor.run lines).session.lastSearch? =
        editor.lastPattern? editor.session.lastSearch? lines := by
  induction lines with
  | nil =>
      intro editor reachable answered
      rfl
  | cons raw rest ih =>
      rintro editor reachable ⟨⟨output, answered⟩, later⟩
      have step : editor.run (raw :: rest) = (editor.next raw).run rest := rfl
      rw [step, ih (reachable.submitted raw) later, lastPattern?]
      cases carries : editor.carriesOut raw with
      | true => rw [(reachable.recalled carries rfl).2.1, if_pos rfl]
      | false =>
          rw [reachable.next_lastSearch answered (carriesOut_eq_false answered carries),
            if_neg Bool.false_ne_true]

/-- **The remembered search is the last one used on a line that succeeded.**  Take any reachable
editor.

A line that is answered by an error, a line of a text and a line after the end of the session leave
alone what is remembered.  A line that is carried out as a command evaluates its addresses, its
destination and its substitution one after the other, each search by what is remembered at the time
if its pattern is empty, and what is remembered afterwards is the pattern of the last of them, if
there is one.  A line with an empty pattern for which nothing is remembered fails.  So after any
lines that are all answered, what is remembered is the pattern that was used last. -/
theorem Reachable.remembers (reachable : editor.Reachable) :
    (∀ raw output, editor.answer raw = .ok output →
      output.kind = .error ∨ editor.session.mode = .text ∨ editor.session.ended = true →
      (editor.next raw).session.lastSearch? = editor.session.lastSearch?) ∧
    (∀ raw, editor.carriesOut raw = true → ∀ line,
      CommandLine.scan (withoutLineEnd raw) = line →
      AllEvaluated editor.platform.engine editor.buffer editor.session.lastSearch? line.tokens ∧
      (editor.next raw).session.lastSearch? =
        line.recalled editor.session.lastSubstitution? editor.session.lastSearch? ∧
      (line.letter? = some 's' → ∃ substitution,
        Substitution.read editor.platform.engine line.args editor.session.lastSubstitution?
          (line.tokens.foldl Address.recalled editor.session.lastSearch?) = .ok substitution ∧
        (editor.next raw).session.lastSubstitution? = some substitution)) ∧
    (∀ raw output, editor.session.mode = .command → editor.session.ended = false →
      editor.answer raw = .ok output →
      (CommandLine.scan (withoutLineEnd raw)).Unmeant editor.session.lastSearch? →
      output.kind = .error) ∧
    (∀ lines, editor.Answered lines →
      (editor.run lines).session.lastSearch? =
        editor.lastPattern? editor.session.lastSearch? lines) := by
  refine ⟨fun raw output => reachable.next_lastSearch,
    fun raw carries line => reachable.recalled carries, ?_,
    fun lines => reachable.run_lastSearch lines⟩
  intro raw output awaiting goesOn answered unmeant
  by_contra succeeded
  have carries := carriesOut_iff.mpr ⟨awaiting, goesOn, output, answered, succeeded⟩
  obtain ⟨evaluated, -, substitutes⟩ := reachable.recalled carries rfl
  exact CommandLine.not_unmeant evaluated
    (fun isSubstitution => (substitutes isSubstitution).imp fun _ read => read.1) unmeant

/-- A search is remembered by the line after it, by a move and by a substitution, and not by a
search that finds nothing; at the start an empty pattern means nothing. -/
theorem remembers_substituted :
    (ofText "one\ntwo\nthree").Reachable ∧
      (∀ output, (ofText "one\ntwo\nthree").answer "//p" = .ok output → output.kind = .error) ∧
      (ofText "one\ntwo\nthree").Answered ["/t/", "/zz/p", "1m//", "1s//T/"] ∧
      ((ofText "one\ntwo\nthree").run ["/t/", "/zz/p", "1m//", "1s//T/"]).session.lastSearch? =
        some "t" := by
  have reachable := reachable_ofText "one\ntwo\nthree"
  obtain ⟨-, -, fails, runs⟩ := reachable.remembers
  have answered : (ofText "one\ntwo\nthree").Answered ["/t/", "/zz/p", "1m//", "1s//T/"] := by
    decide +kernel
  refine ⟨reachable, fun output answer => ?_, answered, ?_⟩
  · exact fails "//p" output (by decide +kernel) (by decide +kernel) answer
      (.inl ⟨[], "//", [""], true, by decide +kernel, by decide +kernel, by decide +kernel⟩)
  · rw [runs _ answered]
    decide +kernel

end Editor

end LineEditor

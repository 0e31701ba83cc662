import LineEditor.Proofs.Address.Resolving
import LineEditor.Proofs.Editor.Filing
import LineEditor.Proofs.Editor.Performing
import LineEditor.Proofs.Editor.Quitting

/-!
# Whose parts they are

Every part of the state belongs to a few commands (`Part.letters`), and beside
them to the lines of a text, the end of a text, a refusal, or a request to quit
that is refused.  A line of a reachable editor changes a part only if it does
one of the things that the part belongs to (`Editor.Owns`,
`Editor.Reachable.owned`).

For marks and for the path it is worked out what they become
(`Editor.CommandReady.marks_performed`, `Editor.CommandReady.path_performed`).
So after any lines a mark stands for the line number it was given last
(`Editor.Reachable.run_marks`); no edit shifts it.
-/

set_option autoImplicit false

namespace LineEditor

/-- The letters of the commands that a part belongs to. -/
def Part.letters : Part → List Char
  | .lines | .history => ['a', 'c', 'd', 'i', 'j', 'm', 'r', 's', 't', 'u']
  | .insertAfter | .mode => ['a', 'c', 'i']
  | .path => ['w']
  | .verboseErrors => ['H']
  | .promptVisible => ['P']
  | .lastSubstitution => ['s']
  | .marks => ['k']
  | .quitState | .ended => ['q', 'Q']
  | .lastSearch => ['m', 's', 't']
  | .lastError | .platform => []

/-- Each of the editor's own commands touches only parts that belong to its letter. -/
theorem Registry.own_part_letters : ∀ spec ∈ Registry.ownCommands, ∀ part ∈ spec.parts,
    spec.letter ∈ part.letters := by
  decide

theorem letter_of_mem_lineParts {raw : String} {part : Part} (member : part ∈ lineParts raw) :
    ∃ letter ∈ part.letters, submittedLetter? raw = some letter := by
  cases found : (submittedLetter? raw).bind Registry.own.find? with
  | none =>
      rw [lineParts, found] at member
      cases member
  | some spec =>
      rw [lineParts_eq found] at member
      obtain ⟨letter, isLetter, isBound⟩ := Option.bind_eq_some_iff.mp found
      obtain ⟨own, rfl⟩ := Registry.find?_own isBound
      exact ⟨_, Registry.own_part_letters spec own part member, isLetter⟩

namespace Editor

/-- A line does one of the things that a part belongs to. -/
inductive Owns (editor : Editor) (raw : String) : Part → Prop
  | performed {part : Part} {letter : Char} (performs : editor.performs raw letter = true)
      (letters : letter ∈ part.letters) : Owns editor raw part
  | warned (refused : editor.refusesQuit raw = true) : Owns editor raw .quitState
  | failed {output : Output} (answered : editor.answer raw = .ok output)
      (failed : output.kind = .error) : Owns editor raw .lastError
  | entered {part : Part} (entering : editor.session.mode = .text)
      (other : withoutLineEnd raw ≠ EditorM.textEnd)
      (entry : part = .lines ∨ part = .insertAfter) : Owns editor raw part
  | closed {part : Part} (entering : editor.session.mode = .text)
      (ends : withoutLineEnd raw = EditorM.textEnd)
      (close : part = .history ∨ part = .mode) : Owns editor raw part

variable {editor : Editor} {raw : String} {part : Part}

/-! ## Text lines -/

/-- A line of a text changes the lines and the place for the text, and its end the history and the
mode. -/
theorem TextStep.owned {after : Editor} (entering : editor.session.mode = .text)
    (step : editor.TextStep (withoutLineEnd raw) after) (changed : ¬part.Same editor after) :
    editor.Owns raw part := by
  cases step with
  | entered other kept buffer lines pending session =>
      cases part with
      | lines => exact .entered entering other (.inl rfl)
      | insertAfter => exact .entered entering other (.inr rfl)
      | history => exact absurd buffer.history changed
      | path => exact absurd buffer.path changed
      | platform => exact absurd kept.platform changed
      | _ => exact absurd (by simp only [Part.Same, session]) changed
  | closed ends kept buffer committed pending session =>
      cases part with
      | history => exact .closed entering ends (.inl rfl)
      | mode => exact .closed entering ends (.inr rfl)
      | lines =>
          refine absurd ?_ changed
          show after.buffer.document.lines = editor.buffer.document.lines
          rw [committed, Buffer.commit_document, buffer.document.eq_of_zero]
      | path =>
          refine absurd ?_ changed
          show after.buffer.path? = editor.buffer.path?
          rw [committed]
          exact (Buffer.commit_samePath _).trans buffer.path
      | platform => exact absurd kept.platform changed
      | _ => exact absurd (by simp only [Part.Same, session]) changed

/-! ## Command lines -/

/-- A refused command line changes the last error, and the state of quitting if it was a request to
quit. -/
theorem Equipped.owned_refused (equipped : editor.Equipped)
    (goesOn : editor.session.ended = false) {refusal : Refusal} {output : Output}
    (steady : editor.Steady (editor.next raw))
    (session : (editor.next raw).session =
      { editor.session with
        lastError := refusal.message
        quitState := editor.quitStateAfter (.refusal refusal) })
    (answered : editor.answer raw = .ok output) (kind : output.kind = .error)
    (changed : ¬part.Same editor (editor.next raw)) : editor.Owns raw part := by
  cases part with
  | lastError => exact .failed answered kind
  | quitState =>
      refine .warned ?_
      have state : (editor.next raw).session.quitState =
          editor.quitStateAfter (.refusal refusal) := by rw [session]
      have differs : (editor.next raw).session.quitState ≠ editor.session.quitState := changed
      have ended : (editor.next raw).session.ended = false := by
        rw [session]
        exact goesOn
      rw [state, quitStateAfter] at differs
      rw [quitStateAfter] at state
      split at differs
      · rename_i unsaved
        rw [if_pos unsaved] at state
        exact ((equipped.next_refusedOnce ended).mp state).resolve_left (Ne.symm differs)
      · exact absurd rfl differs
  | lines => exact absurd (congrArg Buffer.lines steady.buffer) changed
  | history => exact absurd (congrArg Buffer.history steady.buffer) changed
  | path => exact absurd (congrArg Buffer.path? steady.buffer) changed
  | platform => exact absurd steady.kept.platform changed
  | _ => exact absurd (by simp only [Part.Same, session]) changed

/-- A completed command line changes only parts that belong to its letter. -/
theorem Equipped.owned_completed (equipped : editor.Equipped)
    (awaiting : editor.session.mode = .command) (completes : editor.completes (editor.answer raw))
    (lastError : (editor.next raw).session.lastError = editor.session.lastError)
    (other : part ≠ .lastSearch) (changed : ¬part.Same editor (editor.next raw)) :
    editor.Owns raw part := by
  obtain ⟨goesOn, -⟩ := completes_iff.mp completes
  have performed : ∀ {letter}, submittedLetter? raw = some letter → letter ∈ part.letters →
      editor.Owns raw part := fun isLetter letters =>
    .performed (performs_iff.mpr ⟨awaiting, isLetter, completes⟩) letters
  by_cases ended : part = .ended
  · subst ended
    have tracked : editor.session.quitState = .refusedOnce ↔
        decide (editor.session.quitState = .refusedOnce) = true := decide_eq_true_iff.symm
    have isOver : (editor.next raw).session.ended = true := by
      cases isOver : (editor.next raw).session.ended with
      | true => rfl
      | false => exact absurd (isOver.trans goesOn.symm) changed
    obtain ⟨-, -, forced | ⟨quits, -⟩⟩ := (equipped.next_ended_iff goesOn tracked).mp isOver
    · exact performed forced (by decide)
    · exact performed quits (by decide)
  · have member : part ∈ commonParts ++ lineParts raw := by
      by_contra untouched
      exact changed (equipped.untouched awaiting goesOn raw part untouched)
    rcases List.mem_append.mp member with common | own
    · simp only [commonParts, List.mem_cons, List.not_mem_nil, or_false] at common
      rcases common with search | error | isEnded
      · exact absurd search other
      · subst error
        exact absurd lastError changed
      · exact absurd isEnded ended
    · obtain ⟨letter, letters, isLetter⟩ := letter_of_mem_lineParts own
      exact performed isLetter letters

/-- **A line changes a part only if it does one of the things that the part belongs to.**  The
remembered search is no such part: every line with a search may change it. -/
theorem Reachable.owned (reachable : editor.Reachable) (other : part ≠ .lastSearch)
    (changed : ¬part.Same editor (editor.next raw)) : editor.Owns raw part := by
  cases ended : editor.session.ended with
  | true =>
      rw [(submit_ended ended raw).2] at changed
      exact absurd (.refl editor) changed
  | false =>
      cases mode : editor.session.mode with
      | text =>
          obtain ⟨ready, -⟩ := reachable.sound.textReady mode
          exact (ready.step raw).2.owned mode changed
      | command =>
          have equipped := reachable.equipped
          have completed : ∀ {output}, editor.answer raw = .ok output → output.kind ≠ .error →
              (editor.next raw).session.lastError = editor.session.lastError →
              editor.Owns raw part := fun answered succeeded lastError =>
            equipped.owned_completed mode (completes_iff.mpr ⟨ended, _, answered, succeeded⟩)
              lastError other changed
          have step := (reachable.sound.commandReady mode).step ended raw
          generalize isOutcome : editor.answer raw = outcome at step
          cases step with
          | refused steady session events failed =>
              exact equipped.owned_refused ended steady session isOutcome failed changed
          | escaped steady session =>
              refine absurd ?_ changed
              cases part with
              | lastSearch => exact absurd rfl other
              | lines => exact congrArg Buffer.lines steady.buffer
              | history => exact congrArg Buffer.history steady.buffer
              | path => exact congrArg Buffer.path? steady.buffer
              | platform => exact steady.kept.platform
              | _ =>
                  simp only [Part.Same]
                  rw [session]
          | consulted kept isOther buffer pending session succeeded =>
              exact completed isOutcome succeeded (by rw [session])
          | committed kept isOther buffer pending session succeeded =>
              exact completed isOutcome succeeded (by rw [session])
          | opened kept isOther buffer pending session =>
              exact completed isOutcome (by simp) (by rw [session])
          | undone kept same buffer pending session =>
              exact completed isOutcome (by simp) (by rw [session])

/-- Without one of the commands that change lines, a command line leaves the lines and the history
alone. -/
theorem Reachable.quiet (reachable : editor.Reachable) (awaiting : editor.session.mode = .command)
    (quiet : ∀ letter ∈ Part.lines.letters, submittedLetter? raw ≠ some letter) :
    (editor.next raw).buffer.lines = editor.buffer.lines ∧
      (editor.next raw).buffer.history = editor.buffer.history := by
  have same : ∀ part : Part, part.letters = Part.lines.letters → part ≠ .lastSearch →
      (part = .lines ∨ part = .history) → part.Same editor (editor.next raw) := by
    intro part letters other either
    by_contra changed
    cases reachable.owned other changed with
    | performed performs member =>
        rw [letters] at member
        exact quiet _ member (performs_iff.mp performs).2.1
    | warned => simp at either
    | failed => simp at either
    | entered entering => exact absurd (awaiting.symm.trans entering) (by decide)
    | closed entering => exact absurd (awaiting.symm.trans entering) (by decide)
  exact ⟨same .lines rfl (by decide) (.inl rfl), same .history rfl (by decide) (.inr rfl)⟩

end Editor

/-! ## Marks -/

namespace Session

variable (session : Session) (name other : Char) (line : Int)

theorem lookup_setMark : (session.setMark name line).marks.lookup name = some line :=
  List.lookup_cons_self

/-- Setting a mark leaves the other marks alone. -/
theorem lookup_setMark_of_ne (different : other ≠ name) :
    (session.setMark name line).marks.lookup other = session.marks.lookup other := by
  have kept : ∀ marks : Address.Marks,
      (marks.filter (·.1 != name)).lookup other = marks.lookup other := by
    intro marks
    induction marks with
    | nil => rfl
    | cons mark rest ih =>
        obtain ⟨marked, place⟩ := mark
        by_cases same : marked = name
        · subst same
          have unequal : (other == marked) = false := by simpa using different
          rw [List.filter_cons_of_neg (by simp), ih, List.lookup_cons, unequal]
        · rw [List.filter_cons_of_pos (by simpa using same), List.lookup_cons, List.lookup_cons, ih]
  have unequal : (other == name) = false := by simpa using different
  rw [setMark, List.lookup_cons, unequal]
  exact kept session.marks

end Session

/-- A mark that is set stands for its line, whatever has become of the lines. -/
theorem Address.resolve_mark {marks : Address.Marks} {name : Char} {line : Int}
    (stored : marks.lookup name = some line) (engine : Pattern.Engine) (buffer : Buffer)
    (lastSearch? : Option String) :
    (Address.resolve engine buffer marks lastSearch? (String.ofList ['\'', name])).1 =
      .ok line := by
  have split : Address.splitChars (String.ofList ['\'', name]).toList = (['\'', name], []) := by
    rw [String.toList_ofList]
    rfl
  rw [Address.resolve_eq_ok split]
  refine ⟨line, 0, ⟨lastSearch?, ?_⟩, rfl, (Int.add_zero line).symm⟩
  show (Address.markedLine marks [name]).map (·, lastSearch?) = _
  rw [Address.markedLine, stored]
  rfl

/-- The command that sets marks. -/
theorem Registry.own_marking :
    (Registry.own.find? 'k').map CommandSpec.binding = some (.line, .builtin .setMark, false) := by
  decide

namespace EditorM

/-- A mark is set at the first line that is meant. -/
theorem ensures_invoke_setMark {spec : CommandSpec} (handler : spec.handler = .builtin .setMark)
    (keeps : spec.mutates = false) (invocation : Invocation) (editor : Editor) :
    (invoke spec invocation).Ensures editor
      (fun _ after => ∃ name, invocation.args.toList = [name] ∧
        after.session.marks = (editor.session.setMark name invocation.start).marks)
      (fun _ _ => True) := by
  rw [invoke, if_neg (by simp [keeps]), call, ensures_span, handler]
  simp only [Handler.run, Builtin.run, setMark]
  split
  · rename_i name isName
    simp only [ensures_bind, ensures_modifySession, ensures_pure]
    exact ⟨name, isName, rfl⟩
  · exact (ensures_refuse _).mpr trivial

end EditorM

namespace Editor

/-- The mark that a line sets, and the line that it is set at. -/
def marking? (editor : Editor) (raw : String) : Option (Char × Nat) :=
  if editor.performs raw 'k' then
    match (CommandLine.scan (withoutLineEnd raw)).args.toList with
    | [name] => (editor.startLine? raw).map (name, ·)
    | _ => none
  else none

/-- The line that a mark has been set at last in a run. -/
def lastMarked? (editor : Editor) (name : Char) : List String → Option Nat
  | [] => none
  | raw :: rest =>
    ((editor.next raw).lastMarked? name rest).or
      (((editor.marking? raw).filter (·.1 == name)).map (·.2))

variable {editor : Editor} {raw : String}

/-- A line that performs the command to mark has a mark to set, and sets it. -/
theorem CommandReady.marks_performed (ready : editor.CommandReady)
    (performs : editor.performs raw 'k' = true) :
    ∃ name line, editor.marking? raw = some (name, line) ∧
      (CommandLine.scan (withoutLineEnd raw)).args.toList = [name] ∧
      editor.startLine? raw = some line ∧
      (editor.next raw).session.marks = (editor.session.setMark name line).marks := by
  obtain ⟨spec, found, bound⟩ := Option.map_eq_some_iff.mp Registry.own_marking
  simp only [CommandSpec.binding, Prod.mk.injEq] at bound
  obtain ⟨-, handler, keeps⟩ := bound
  obtain ⟨output, invocation, middle, reply, inner, -, -, completed, args, start⟩ :=
    ready.performed performs found
  obtain ⟨name, isName, marks⟩ :=
    (EditorM.ensures_invoke_setMark handler keeps invocation middle).result completed.carriedOut
  have before : middle.session.marks = editor.session.marks :=
    completed.planned_same .marks (by decide)
  have after : (editor.next raw).session.marks = inner.session.marks :=
    completed.concluded_same .marks (by decide)
  rw [args] at isName
  refine ⟨name, invocation.start, ?_, isName, start, ?_⟩
  · rw [marking?, if_pos performs, isName, start]
    rfl
  · rw [after, marks, Session.setMark, Session.setMark, before]

/-- The marks after a line are those from before with the mark that the line sets. -/
theorem Reachable.next_marks (reachable : editor.Reachable) (raw : String) :
    (editor.next raw).session.marks =
      ((editor.marking? raw).elim editor.session fun (name, line) =>
        editor.session.setMark name line).marks := by
  by_cases performs : editor.performs raw 'k' = true
  · have awaiting := (performs_iff.mp performs).1
    obtain ⟨name, line, marking, -, -, marks⟩ :=
      (reachable.sound.commandReady awaiting).marks_performed performs
    rw [marking, marks]
    rfl
  · have unmarked : editor.marking? raw = none := by rw [marking?, if_neg performs]
    rw [unmarked, Option.elim_none]
    by_contra changed
    have owns : editor.Owns raw .marks := reachable.owned (by decide) changed
    cases owns with
    | performed other letters =>
        simp only [Part.letters, List.mem_singleton] at letters
        subst letters
        exact performs other
    | entered entering other entry => simp at entry
    | closed entering ends close => simp at close

/-- **After any lines a mark stands for the line it has been set at last.** -/
theorem Reachable.run_marks (lines : List String) (name : Char) :
    ∀ {editor : Editor}, editor.Reachable →
      (editor.run lines).session.marks.lookup name =
        ((editor.lastMarked? name lines).map Int.ofNat).or (editor.session.marks.lookup name) := by
  induction lines with
  | nil =>
      intro editor reachable
      rfl
  | cons raw rest ih =>
      intro editor reachable
      have step : editor.run (raw :: rest) = (editor.next raw).run rest := rfl
      have one : (editor.next raw).session.marks.lookup name =
          ((((editor.marking? raw).filter (·.1 == name)).map (·.2)).map Int.ofNat).or
            (editor.session.marks.lookup name) := by
        rw [reachable.next_marks raw]
        cases editor.marking? raw with
        | none => rfl
        | some marking =>
            obtain ⟨marked, line⟩ := marking
            by_cases same : marked = name
            · subst same
              simp [Session.lookup_setMark, Option.filter]
            · simp [Session.lookup_setMark_of_ne _ _ _ _ (Ne.symm same), Option.filter, same]
      rw [step, ih (reachable.submitted raw), one, lastMarked?, Option.map_or, Option.or_assoc]

/-! ## The path -/

/-- A line that performs the command to write saves the buffer, and the path becomes the one that it
is saved to. -/
theorem CommandReady.path_performed (ready : editor.CommandReady)
    (performs : editor.performs raw 'w' = true) :
    ∃ target count,
      let given? := EditorM.givenPath? (CommandLine.scan (withoutLineEnd raw)).args
      editor.buffer.target? given? = some target ∧
      editor.buffer.save editor.platform.codecs editor.disk given? =
        .ok (count, (editor.next raw).buffer, (editor.next raw).disk) ∧
      (editor.next raw).buffer.path? = some target := by
  obtain ⟨spec, found, bound⟩ := Option.map_eq_some_iff.mp Registry.own_filing.1
  simp only [CommandSpec.binding, Prod.mk.injEq] at bound
  obtain ⟨-, handler, keeps⟩ := bound
  obtain ⟨output, invocation, middle, reply, inner, answered, succeeded, completed, args, -⟩ :=
    ready.performed performs found
  obtain ⟨awaiting, -, completes⟩ := performs_iff.mp performs
  have awaits : editor.AwaitsCommand :=
    ⟨ready.modes.active_command awaiting, (completes_iff.mp completes).1⟩
  rcases (EditorM.ensures_submit_write awaits completed.invokes handler keeps).of_ok answered with
    ⟨count, saved, disk, saving, -, isBuffer, isDisk⟩ | ⟨-, failed⟩
  · obtain ⟨job, prepared, written, -, marked⟩ := Buffer.save_eq_ok_iff.mp saving
    obtain ⟨target, -⟩ := Buffer.prepareSave_eq_ok_iff.mp prepared
    have isBuffer : (editor.next raw).buffer = saved := isBuffer
    have isDisk : (editor.next raw).disk = disk := isDisk
    rw [args] at target saving
    refine ⟨job.target, count, target, ?_, ?_⟩
    · rw [isBuffer, isDisk]
      exact saving
    · rw [isBuffer, marked]
      rfl
  · exact absurd failed succeeded

/-! ## All parts -/

/-- **Each command touches only its own part of the state.**  Take any reachable editor.

A line changes a part only if it performs a command that the part belongs to, or is refused to quit,
or fails, or is a line of a text or the end of it, and the part belongs to that.  Only for the
remembered search nothing is said.  A command line with no command that changes lines leaves the
lines and the history alone.

A line that marks sets one mark, at the line that its first address resolves to or else at the
current one, and leaves the other marks alone; and so after any lines an address `'x` is the line
that `x` has been set at last, whatever has become of the lines.  A line that writes saves the
buffer, and the path becomes the one that it is saved to. -/
theorem Reachable.touches_own (reachable : editor.Reachable) :
    (∀ raw part, part ≠ .lastSearch → ¬part.Same editor (editor.next raw) →
      editor.Owns raw part) ∧
    (∀ raw, editor.session.mode = .command →
      (∀ letter ∈ ['a', 'c', 'd', 'i', 'j', 'm', 'r', 's', 't', 'u'],
        submittedLetter? raw ≠ some letter) →
      (editor.next raw).buffer.lines = editor.buffer.lines ∧
        (editor.next raw).buffer.history = editor.buffer.history) ∧
    (∀ raw, editor.performs raw 'k' = true → ∃ name line,
      (CommandLine.scan (withoutLineEnd raw)).args.toList = [name] ∧
      editor.startLine? raw = some line ∧
      (editor.next raw).session.marks.lookup name = some (line : Int) ∧
      ∀ other ≠ name,
        (editor.next raw).session.marks.lookup other = editor.session.marks.lookup other) ∧
    (∀ lines name line, editor.lastMarked? name lines = some line →
      ∀ engine buffer lastSearch?, (Address.resolve engine buffer (editor.run lines).session.marks
        lastSearch? (String.ofList ['\'', name])).1 = .ok (line : Int)) ∧
    (∀ lines name, editor.lastMarked? name lines = none →
      (editor.run lines).session.marks.lookup name = editor.session.marks.lookup name) ∧
    (∀ raw, editor.performs raw 'w' = true → ∃ target count,
      let given? := EditorM.givenPath? (CommandLine.scan (withoutLineEnd raw)).args
      editor.buffer.target? given? = some target ∧
      editor.buffer.save editor.platform.codecs editor.disk given? =
        .ok (count, (editor.next raw).buffer, (editor.next raw).disk) ∧
      (editor.next raw).buffer.path? = some target) := by
  refine ⟨fun raw part => reachable.owned, fun raw => reachable.quiet, ?_, ?_, ?_, ?_⟩
  · intro raw performs
    have awaiting := (performs_iff.mp performs).1
    obtain ⟨name, line, -, isName, start, marks⟩ :=
      (reachable.sound.commandReady awaiting).marks_performed performs
    refine ⟨name, line, isName, start, ?_, ?_⟩
    · rw [marks, Session.lookup_setMark]
    · intro other different
      rw [marks, Session.lookup_setMark_of_ne _ _ _ _ different]
  · intro lines name line marked engine buffer lastSearch?
    refine Address.resolve_mark ?_ engine buffer lastSearch?
    rw [reachable.run_marks lines name, marked]
    rfl
  · intro lines name unmarked
    rw [reachable.run_marks lines name, unmarked]
    rfl
  · intro raw performs
    exact (reachable.sound.commandReady (performs_iff.mp performs).1).path_performed performs

/-- The second line is marked, and after the first one has been deleted the mark still stands for
the number two; a line that writes makes its path the one of the buffer and leaves the marks
alone. -/
theorem touches_own_marked :
    (ofText "one\ntwo").Reachable ∧
      (ofText "one\ntwo").lastMarked? 'x' ["2kx", "1d", "w out"] = some 2 ∧
      (∀ engine buffer lastSearch?, (Address.resolve engine buffer
        ((ofText "one\ntwo").run ["2kx", "1d", "w out"]).session.marks lastSearch?
          (String.ofList ['\'', 'x'])).1 = .ok 2) ∧
      ((ofText "one\ntwo").next "w out").buffer.path? = some "out" ∧
      ((ofText "one\ntwo").next "w out").session.marks = (ofText "one\ntwo").session.marks := by
  have reachable := reachable_ofText "one\ntwo"
  obtain ⟨owned, -, -, marked, -, writes⟩ := reachable.touches_own
  have isMarked : (ofText "one\ntwo").lastMarked? 'x' ["2kx", "1d", "w out"] = some 2 := by
    decide +kernel
  obtain ⟨target, count, isTarget, -, path⟩ := writes "w out" (by decide +kernel)
  refine ⟨reachable, isMarked, marked _ _ _ isMarked, ?_, ?_⟩
  · rw [path, ← isTarget]
    decide +kernel
  · by_contra changed
    cases owned "w out" .marks (by decide) changed with
    | performed performs letters =>
        simp only [Part.letters, List.mem_singleton] at letters
        subst letters
        have other : (ofText "one\ntwo").performs "w out" 'k' = false := by decide +kernel
        exact absurd (performs.symm.trans other) (by decide)
    | entered entering other entry => simp at entry
    | closed entering ends close => simp at close

end Editor

end LineEditor

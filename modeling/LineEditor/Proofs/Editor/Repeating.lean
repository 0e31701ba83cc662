import LineEditor.Proofs.Command.Stepping
import LineEditor.Proofs.Editor.Repeatable
import LineEditor.Proofs.Editor.Shorthands

/-!
# Repeating the last substitution

A substitute command without arguments makes the last substitution once more.
Behind any addresses that can be resolved it succeeds, or there is no match: what
is remembered can always be used again.  If the pattern holds no slash the
substitution can be spelled out, and then the line with its spelling has the
same effect (`Editor.Reachable.repeats`).

The two lines are scanned alike up to the arguments (`CommandLine.scan_append`),
and their dispatches run alike from any session that remembers the substitution
(`EditorM.runOn_dispatch_spelled`).
-/

set_option autoImplicit false

namespace LineEditor

/-! ## Scanning -/

namespace ScanState

/-- There is a rest only behind the addresses. -/
def RestBehind (state : ScanState) : Prop :=
  state.rest ≠ "" → state.phase = .rest

theorem Placed.restBehind {state : ScanState} (placed : state.Placed) : state.RestBehind := by
  intro begun
  cases placed with
  | first _ _ empty => exact absurd empty begun
  | second _ _ empty => exact absurd empty begun
  | rest phase => exact phase

end ScanState

/-- Behind the letter everything is taken over. -/
theorem CommandLine.scan_append {text : String} (begun : (scan text).rest ≠ "") (tail : String) :
    scan (text ++ tail) = { scan text with rest := (scan text).rest ++ tail } := by
  have behind := (ScanState.placed_start.feed text.toList).restBehind
  rw [scan] at begun ⊢
  rw [scan, String.toList_append, ScanState.feed_append]
  generalize ScanState.feed {} text.toList = state at begun behind
  have rest : state.rest ≠ "" := begun
  rw [ScanState.feed_rest _ (behind rest), String.ofList_toList]
  have filled : state.rest ++ tail ≠ "" := fun empty => rest (String.append_eq_empty_iff.mp empty).1
  simp [ScanState.finish, rest, filled]

/-- A letter without arguments is all that is behind the addresses. -/
theorem CommandLine.rest_of_bare {line : CommandLine} {letter : Char}
    (isLetter : line.letter? = some letter) (bare : line.args = "") :
    line.rest = String.ofList [letter] := by
  have chars : line.rest.toList = [letter] := by
    rw [args, ← String.toList_inj, String.toList_ofList] at bare
    cases rest : line.rest.toList with
    | nil =>
        rw [CommandLine.letter?, rest] at isLetter
        cases isLetter
    | cons first others =>
        rw [CommandLine.letter?, rest] at isLetter
        rw [rest] at bare
        cases isLetter
        simpa using bare
  rw [← String.toList_inj, chars, String.toList_ofList]

/-- The command that substitutes. -/
theorem Registry.own_substituting :
    (Registry.own.find? 's').map CommandSpec.binding =
      some (.range, .builtin .substitute, true) := by
  decide

/-! ## Ends of lines -/

/-- A line that does not end in a line feed or a carriage return is submitted as it is. -/
theorem withoutLineEnd_of_last {text : String} {last : Char}
    (ends : text.toList.getLast? = some last) (plain : last ≠ '\n' ∧ last ≠ '\r') :
    withoutLineEnd text = text := by
  have whole : withoutLineEnd (text ++ "") = text ++ withoutLineEnd "" :=
    withoutLineEnd_append (by simpa [ends] using plain.2) (by simpa [ends] using plain.1) ""
  rwa [String.append_empty, show withoutLineEnd "" = "" from rfl, String.append_empty] at whole

theorem Substitution.getLast?_spelled (substitution : Substitution) :
    substitution.spelled.toList.getLast? = some (if substitution.all then 'g' else '/') := by
  cases all : substitution.all <;> simp [spelled, all, List.getLast?_append, List.getLast?_cons]

/-! ## Spelling out -/

namespace EditorM

variable {editor : Editor} {substitution : Substitution} {spec : CommandSpec}
  {invocation : Invocation} {line : CommandLine}

/-- A span around works that run alike, whatever has been told. -/
theorem runOn_span_alike {α : Type} {work other : EditorM α} (request : Telemetry.SpanRequest)
    (alike : ∀ inner, editor.Tells inner → other.runOn inner = work.runOn inner) :
    (span request other).runOn editor = (span request work).runOn editor := by
  rw [runOn_span, runOn_span, alike _ ⟨(editor.journal.enter request).2, editor.events, rfl⟩]

/-- What is substituted depends on the arguments only through what is read from them. -/
theorem runOn_substitute_args (args : String)
    (alike : Substitution.read editor.platform.engine args editor.session.lastSubstitution?
        editor.session.lastSearch? =
      Substitution.read editor.platform.engine invocation.args editor.session.lastSubstitution?
        editor.session.lastSearch?) :
    (substitute { invocation with args }).runOn editor = (substitute invocation).runOn editor := by
  rw [substitute, substitute, runOn_bind, runOn_bind, runOn_get]
  dsimp only
  rw [runOn_bind, runOn_bind, alike]
  rfl

/-- A command that substitutes is invoked alike with arguments from which the same is read. -/
theorem runOn_invoke_args (handler : spec.handler = .builtin .substitute) (args : String)
    (alike : Substitution.read editor.platform.engine args editor.session.lastSubstitution?
        editor.session.lastSearch? =
      Substitution.read editor.platform.engine invocation.args editor.session.lastSubstitution?
        editor.session.lastSearch?) :
    (invoke spec { invocation with args }).runOn editor =
      (invoke spec invocation).runOn editor := by
  have called : ∀ inner : Editor, inner.platform = editor.platform →
      inner.session = editor.session →
      (call spec { invocation with args }).runOn inner = (call spec invocation).runOn inner := by
    intro inner platform session
    refine runOn_span_alike _ ?_
    rintro within ⟨journal, events, rfl⟩
    rw [handler]
    refine runOn_substitute_args args ?_
    rw [platform, session]
    exact alike
  rw [invoke, invoke]
  split
  · rw [runOn_transaction, runOn_transaction, called (editor.enterTransaction _) rfl rfl]
  · exact called editor rfl rfl

/-- What runs alike ensures alike. -/
theorem Ensures.of_runOn {α : Type} {work other : EditorM α} {onResult : α → Editor → Prop}
    {onFault : Fault → Editor → Prop} (same : work.runOn editor = other.runOn editor)
    (ensured : other.Ensures editor onResult onFault) : work.Ensures editor onResult onFault := by
  rw [Ensures] at ensured ⊢
  rwa [same]

/-- Works that run alike from wherever the same start leads to. -/
theorem runOn_bind_alike {α β : Type} {first : EditorM β} {next next' : β → EditorM α}
    (alike : ∀ result middle, first.runOn editor = (.ok result, middle) →
      (next' result).runOn middle = (next result).runOn middle) :
    (first >>= next').runOn editor = (first >>= next).runOn editor := by
  rw [runOn_bind, runOn_bind]
  cases run : first.runOn editor with
  | mk outcome middle =>
      cases outcome with
      | ok result => exact alike result middle run
      | error fault => rfl

/-- What a line that substitutes comes to once its addresses have been resolved. -/
theorem runOn_substituting (own : editor.registry = Registry.own)
    (found : Registry.own.find? 's' = some spec) (arity : spec.arity = .range)
    (letter : line.letter? = some 's') (lines : Option Nat × Option Nat) :
    (bindRequest line lines >>= carryOut line).runOn editor =
      (invoke spec
        { letter := spec.letter
          args := line.args
          start := lines.1.getD editor.buffer.current
          finish? := some (lines.2.getD (lines.1.getD editor.buffer.current))
          addressed := lines.1.isSome || lines.2.isSome }).runOn editor := by
  have isBound : line.letter?.bind editor.registry.find? = some spec := by
    rw [letter, own]
    exact found
  have bound : (bindRequest line lines).runOn editor =
      (.ok (.invoke spec
        { letter := spec.letter
          args := line.args
          start := lines.1.getD editor.buffer.current
          finish? := some (lines.2.getD (lines.1.getD editor.buffer.current))
          addressed := lines.1.isSome || lines.2.isSome }), editor) := by
    rw [bindRequest, runOn_bind, runOn_get]
    simp only [isBound, CommandSpec.bindLines, arity]
    rfl
  rw [runOn_bind, bound]
  rfl

/-- A line that substitutes is dispatched alike with arguments from which the same is read. -/
theorem runOn_dispatch_args {text : String} (own : editor.registry = Registry.own)
    {line' : CommandLine} (sameFirst : line'.first = (CommandLine.scan text).first)
    (sameSecond : line'.second = (CommandLine.scan text).second)
    (letter : (CommandLine.scan text).letter? = some 's') (letter' : line'.letter? = some 's')
    (alike : ∀ lastSearch?,
      Substitution.read editor.platform.engine line'.args editor.session.lastSubstitution?
          lastSearch? =
        Substitution.read editor.platform.engine (CommandLine.scan text).args
          editor.session.lastSubstitution? lastSearch?) :
    (dispatch line').runOn editor = (dispatch (CommandLine.scan text)).runOn editor := by
  obtain ⟨spec, found, bound⟩ := Option.map_eq_some_iff.mp Registry.own_substituting
  simp only [CommandSpec.binding, Prod.mk.injEq] at bound
  obtain ⟨arity, handler, -⟩ := bound
  have sameLines : resolveLines line' = resolveLines (CommandLine.scan text) := by
    rw [resolveLines, resolveLines, sameFirst, sameSecond]
  rw [dispatch_eq, dispatch_eq, plan, plan, bind_assoc, bind_assoc, sameLines]
  refine runOn_bind_alike fun lines middle resolved => ?_
  have sought := ((ensures_resolveLines text editor).result resolved).1
  have last : middle.session.lastSubstitution? = editor.session.lastSubstitution? := by
    obtain ⟨_, _, rfl⟩ := sought
    rfl
  have registry := sought.registry.trans own
  rw [runOn_substituting registry found arity letter' lines,
    runOn_substituting registry found arity letter lines]
  refine @runOn_invoke_args middle spec ⟨_, _, _, _, _⟩ handler line'.args ?_
  rw [sought.framed.platform, last]
  exact alike middle.session.lastSearch?

/-- Lines whose dispatches run alike are answered alike, whatever is told of them. -/
theorem sameOutcome_submit_alike (awaits : editor.AwaitsCommand) {raw raw' : String}
    (alike : ∀ inner, editor.Tells inner →
      (dispatch (CommandLine.scan (withoutLineEnd raw'))).runOn inner =
        (dispatch (CommandLine.scan (withoutLineEnd raw))).runOn inner) :
    SameOutcome ((submit raw).runOn editor) ((submit raw').runOn editor) := by
  have submitted : ∀ raw, (submit raw).runOn editor =
      (answeringRefusals (span (modeSpan .command) (handleCommand (withoutLineEnd raw))) >>=
        conclude).runOn editor := by
    intro raw
    rw [submit, runOn_bind, runOn_get]
    simp only [awaits.goesOn, awaits.active, Bool.false_eq_true, if_false]
    rfl
  -- The second line, as it is told, with the dispatch of the first one.
  let work : EditorM Reply := do
    emit (.commandSubmitted (withoutLineEnd raw'))
    span (dispatchSpan (CommandLine.scan (withoutLineEnd raw')))
      (restoringSearch (dispatch (CommandLine.scan (withoutLineEnd raw))))
  have handled : ∀ inner, editor.Tells inner →
      (handleCommand (withoutLineEnd raw')).runOn inner = work.runOn inner := by
    rintro inner ⟨_, _, rfl⟩
    rw [handleCommand]
    refine runOn_bind_alike fun _ middle told => ?_
    obtain ⟨journal, emitted⟩ := Editor.emit_eq { editor with journal := _, events := _ }
      (.commandSubmitted (withoutLineEnd raw'))
    have isMiddle : middle = _ := (Prod.mk.inj told).2.symm.trans emitted
    subst isMiddle
    refine runOn_span_alike _ ?_
    rintro within ⟨_, _, rfl⟩
    rw [runOn_restoringSearch, runOn_restoringSearch, alike _ ⟨_, _, rfl⟩]
  have parallel : (handleCommand (withoutLineEnd raw)).Parallel work :=
    .bind (parallel_emit _ _) fun _ => (oblivious_dispatch _).restoringSearch.span _ _
  have spanned : (answeringRefusals
      (span (modeSpan .command) (handleCommand (withoutLineEnd raw')))).runOn editor =
      (answeringRefusals (span (modeSpan .command) work)).runOn editor := by
    rw [runOn_answeringRefusals, runOn_answeringRefusals, runOn_span_alike _ handled]
  rw [submitted, submitted, runOn_bind _ _ editor, runOn_bind _ _ editor, spanned, ← runOn_bind,
    ← runOn_bind]
  exact Parallel.bind (parallel.span _ _).answeringRefusals (fun reply => oblivious_conclude reply)
    _ _ (.refl editor)

/-! ## Once more -/

/-- With a template, changes are always found. -/
theorem fails_changes_template {compiled : Pattern.Compiled} {template : String}
    {pieces : Pattern.Template} (read : Pattern.Template.read compiled template = .ok pieces)
    (all : Bool) (causes : Fault → Prop) (lines : List String) : ∀ number,
    FailsOnly causes (Substitution.changes (compiled.replace template all) number lines) := by
  induction lines with
  | nil => exact fun _ => .ok _
  | cons line rest ih =>
      intro number
      rw [Substitution.changes, Pattern.Compiled.replace, read]
      exact .bind (ih _) fun _ _ => .ok _

/-- A valid substitution finds its changes unless the buffer is misused. -/
theorem fails_changesOf_valid (valid : substitution.Valid editor.platform.engine) :
    FailsOnly Fault.IsMisuse (changesOf editor substitution invocation) := by
  obtain ⟨compiled, pieces, readable, template⟩ := valid.template
  have isRead : (Pattern.read editor.platform.engine substitution.pattern).mapError
      Fault.ofPattern = .ok compiled := by
    rw [readable]
    rfl
  rw [changesOf, isRead]
  refine .bind (.ok compiled) ?_
  rintro _ ⟨⟩
  exact .bind (editor.buffer.fails_readRange _ _) fun lines _ =>
    fails_changes_template template _ _ _ _

/-- A substitution that is remembered is made once more, unless there is no match or the buffer is
misused. -/
theorem ensures_substitute_again (bare : invocation.args = "")
    (last : editor.session.lastSubstitution? = some substitution)
    (valid : substitution.Valid editor.platform.engine) :
    (substitute invocation).Ensures editor (fun reply _ => reply = { status := "substitute" })
      (fun fault _ => fault = .refusal (.address .noMatch) ∨ fault.IsMisuse) := by
  have read : Substitution.read editor.platform.engine invocation.args
      editor.session.lastSubstitution? editor.session.lastSearch? = .ok substitution := by
    unfold Substitution.read
    rw [if_pos bare, last]
  simp only [substitute, ensures_bind, ensures_get, ensures_lift, read]
  refine ⟨?_, fun _ impossible => by cases impossible⟩
  rintro _ ⟨⟩
  refine ⟨fun changed made => ?_,
    fun fault failed => .inr (fails_changesOf_valid valid fault failed)⟩
  split
  · exact (ensures_refuse _).mpr (.inl rfl)
  · simp only [setCurrent, ensures_bind, ensures_modifyBuffer, ensures_modifySession, ensures_pure]
    exact ⟨fun _ _ => ⟨fun _ _ => trivial,
      fun fault failed => .inr (Buffer.fails_setCurrent _ _ fault failed)⟩,
      fun fault failed => .inr (Buffer.fails_replaceLines _ _ fault failed)⟩

/-- A substitute command without arguments substitutes once more behind addresses that are
accepted. -/
theorem ensures_dispatch_again {text : String} (own : editor.registry = Registry.own)
    (accepted : editor.Accepts (CommandLine.scan text))
    (letter : (CommandLine.scan text).letter? = some 's')
    (bare : (CommandLine.scan text).args = "")
    (last : editor.session.lastSubstitution? = some substitution)
    (valid : substitution.Valid editor.platform.engine) :
    (dispatch (CommandLine.scan text)).Ensures editor
      (fun reply _ => reply = { status := "substitute" })
      (fun fault _ => fault = .refusal (.address .noMatch) ∨ fault.IsMisuse) := by
  obtain ⟨spec, found, bound⟩ := Option.map_eq_some_iff.mp Registry.own_substituting
  simp only [CommandSpec.binding, Prod.mk.injEq] at bound
  obtain ⟨arity, handler, -⟩ := bound
  rw [dispatch_eq, plan, bind_assoc, ensures_bind]
  refine (ensures_resolveLines text editor).traced.mono ?_ ?_
  · rintro lines middle ⟨⟨sought, -⟩, -⟩
    have lastMiddle : middle.session.lastSubstitution? = some substitution := by
      obtain ⟨_, _, rfl⟩ := sought
      exact last
    refine Ensures.of_runOn
      (runOn_substituting (sought.registry.trans own) found arity letter lines) ?_
    refine @ensures_invoke_session middle spec _ (fun reply _ => reply = _)
      (fun fault _ => fault = _ ∨ _) fun before platform session _ _ => ?_
    rw [handler]
    refine ensures_substitute_again bare (session ▸ lastMiddle) ?_
    rw [platform, sought.framed.platform]
    exact valid
  · rintro fault after ⟨-, failed⟩
    obtain ⟨lines, resolved⟩ := accepted
    rw [failed] at resolved
    cases resolved

end EditorM

namespace Editor

variable {editor : Editor} {substitution : Substitution}

/-- The line succeeds, or there is no match. -/
theorem CommandReady.repeated (ready : editor.CommandReady) (goesOn : editor.session.ended = false)
    {raw text : String} (isText : withoutLineEnd raw = text)
    (accepted : editor.Accepts (CommandLine.scan text))
    (letter : (CommandLine.scan text).letter? = some 's')
    (bare : (CommandLine.scan text).args = "")
    (last : editor.session.lastSubstitution? = some substitution)
    (valid : substitution.Valid editor.platform.engine) :
    editor.answer raw = .ok { kind := .none } ∨
      ∃ output, editor.answer raw = .ok output ∧ output.kind = .error ∧
        (editor.next raw).session.lastError = "no match" := by
  have awaits : editor.AwaitsCommand := ⟨ready.modes.active_command ready.mode, goesOn⟩
  have ensured : (EditorM.submit raw).Ensures editor
      (fun output after => output = { kind := .none } ∨
        output.kind = .error ∧ after.session.lastError = "no match")
      (fun fault _ => fault.IsMisuse) := by
    refine EditorM.ensures_submit_dispatch awaits fun journal => ?_
    rw [isText]
    have acceptedTold : (editor.told raw journal).Accepts (CommandLine.scan text) :=
      (@accepts_congr editor (editor.told raw journal) (CommandLine.scan text) rfl rfl rfl).mpr
        accepted
    have registry : (editor.told raw journal).registry = Registry.own := ready.registry
    refine (EditorM.ensures_dispatch_again registry acceptedTold letter bare last valid).mono ?_ ?_
    · rintro reply inner rfl journal
      rw [EditorM.ensures_conclude_shown rfl rfl]
      exact .inl (by simp [Reply.shown])
    · rintro fault inner (rfl | ⟨cause, rfl⟩) journal
      · refine ⟨?_, fun escapes => by cases escapes⟩
        rintro _ ⟨⟩
        exact .inr ⟨rfl, rfl⟩
      · exact ⟨(fun _ impossible => by cases impossible), fun _ => ⟨cause, rfl⟩⟩
  have step := ready.step goesOn raw
  cases answered : editor.answer raw with
  | ok output =>
      rcases ensured.of_ok answered with rfl | ⟨failed, lastError⟩
      · exact .inl rfl
      · exact .inr ⟨output, rfl, failed, lastError⟩
  | error fault =>
      rw [answered] at step
      cases step with
      | escaped steady session unforeseen notMisuse =>
          exact absurd (ensured.of_error answered) notMisuse

/-- A line that spells the substitution out has the same effect. -/
theorem CommandReady.spelled (ready : editor.CommandReady) (goesOn : editor.session.ended = false)
    {text : String} (whole : withoutLineEnd text = text)
    (letter : (CommandLine.scan text).letter? = some 's') (bare : (CommandLine.scan text).args = "")
    (last : editor.session.lastSubstitution? = some substitution)
    (valid : substitution.Valid editor.platform.engine)
    (unslashed : '/' ∉ substitution.pattern.toList) :
    EditorM.SameOutcome ((EditorM.submit text).runOn editor)
      ((EditorM.submit (text ++ substitution.spelled)).runOn editor) := by
  obtain ⟨compiled, pieces, readable, -⟩ := valid.template
  have awaits : editor.AwaitsCommand := ⟨ready.modes.active_command ready.mode, goesOn⟩
  have rest : (CommandLine.scan text).rest = "s" :=
    (CommandLine.rest_of_bare letter bare).trans (by decide)
  have scanned : CommandLine.scan (text ++ substitution.spelled) =
      { CommandLine.scan text with rest := "s" ++ substitution.spelled } := by
    rw [CommandLine.scan_append (by simp [rest]), rest]
  have wholeLong : withoutLineEnd (text ++ substitution.spelled) =
      text ++ substitution.spelled := by
    refine @withoutLineEnd_of_last _ (if substitution.all then 'g' else '/') ?_ ?_
    · rw [String.toList_append, List.getLast?_append, substitution.getLast?_spelled]
      rfl
    · split <;> decide
  refine EditorM.sameOutcome_submit_alike awaits fun inner tells => ?_
  have session : inner.session = editor.session := by
    obtain ⟨_, _, rfl⟩ := tells
    rfl
  have platform : inner.platform = editor.platform := by
    obtain ⟨_, _, rfl⟩ := tells
    rfl
  have registry : inner.registry = Registry.own := by
    obtain ⟨_, _, rfl⟩ := tells
    exact ready.registry
  rw [whole, wholeLong]
  refine EditorM.runOn_dispatch_args registry ?_ ?_ letter ?_ ?_
  · rw [scanned]
  · rw [scanned]
  · rw [scanned]
    simp [CommandLine.letter?]
  · intro lastSearch?
    have again : Substitution.read editor.platform.engine (CommandLine.scan text).args
        (some substitution) lastSearch? = .ok substitution := by
      unfold Substitution.read
      rw [if_pos bare]
    have args : (CommandLine.scan (text ++ substitution.spelled)).args = substitution.spelled := by
      rw [scanned]
      simp [CommandLine.args]
    rw [args, platform, session, last, again]
    exact Substitution.read_spelled valid.present readable ⟨unslashed, valid.unslashed⟩

/-- **A bare `s` repeats the last substitution faithfully.**  Take any reachable editor that
remembers a substitution.

Its pattern is not empty and can be read, and its replacement is a template for that pattern.  Take
any front of a line that is scanned, with `s` behind it, as addresses and that letter without
arguments.  If the addresses are accepted, the line succeeds or there is no match.  And if the
pattern holds no slash and a command is awaited, so that the line is no line of a text, then it is
answered just as the one that spells the substitution out, and the editors afterwards differ only in
what they have told. -/
theorem Reachable.repeats (reachable : editor.Reachable)
    (last : editor.session.lastSubstitution? = some substitution) :
    substitution.pattern ≠ "" ∧
    (∃ compiled pieces, Pattern.read editor.platform.engine substitution.pattern = .ok compiled ∧
      Pattern.Template.read compiled (Pattern.expandReplacement substitution.replacement) =
        .ok pieces) ∧
    ∀ front, (CommandLine.scan (front ++ "s")).letter? = some 's' →
      (CommandLine.scan (front ++ "s")).args = "" →
      (editor.session.ended = false → editor.Accepts (CommandLine.scan (front ++ "s")) →
        editor.answer (front ++ "s") = .ok { kind := .none } ∨
        ∃ output, editor.answer (front ++ "s") = .ok output ∧ output.kind = .error ∧
          (editor.next (front ++ "s")).session.lastError = "no match") ∧
      ('/' ∉ substitution.pattern.toList → editor.session.mode = .command →
        let spelled := front ++ "s" ++ ("/" ++ substitution.pattern ++ "/" ++
          substitution.replacement ++ "/" ++ if substitution.all then "g" else "")
        editor.answer spelled = editor.answer (front ++ "s") ∧
          (editor.next (front ++ "s")).Tells (editor.next spelled)) := by
  have valid := reachable.repeatable.substitution _ last
  refine ⟨valid.present, valid.template, fun front letter bare => ?_⟩
  have whole : withoutLineEnd (front ++ "s") = front ++ "s" :=
    @withoutLineEnd_of_last _ 's' (by simp) (by decide)
  refine ⟨fun goesOn accepted => ?_, fun unslashed awaiting => ?_⟩
  · cases mode : editor.session.mode with
    | text => exact .inl ((reachable.sound.textReady mode).1.step (front ++ "s")).1
    | command =>
        exact (reachable.sound.commandReady mode).repeated goesOn whole accepted letter bare last
          valid
  · cases ended : editor.session.ended with
    | true =>
        simp only [(submit_ended ended _).1, (submit_ended ended _).2, true_and]
        exact .refl editor
    | false =>
        have same := (reachable.sound.commandReady awaiting).spelled ended whole letter bare last
          valid unslashed
        exact ⟨same.same, same.tells⟩

/-- A substitution that has taken its pattern from a search is repeated in all lines, just as it
would be spelled out. -/
theorem repeats_searched :
    ((ofText "one\ntwo\nthree").run ["/t/", "s//T/g"]).Reachable ∧
      ((ofText "one\ntwo\nthree").run ["/t/", "s//T/g"]).session.lastSubstitution? =
        some ⟨"t", "T", true⟩ ∧
      ((ofText "one\ntwo\nthree").run ["/t/", "s//T/g"]).answer ",s" = .ok { kind := .none } ∧
      (((ofText "one\ntwo\nthree").run ["/t/", "s//T/g"]).next ",s").Tells
        (((ofText "one\ntwo\nthree").run ["/t/", "s//T/g"]).next ",s/t/T/g") ∧
      (((ofText "one\ntwo\nthree").run ["/t/", "s//T/g"]).next ",s").buffer.lines =
        ["one", "Two", "Three"] := by
  have reachable := (reachable_ofText "one\ntwo\nthree").run ["/t/", "s//T/g"]
  have last : ((ofText "one\ntwo\nthree").run ["/t/", "s//T/g"]).session.lastSubstitution? =
      some ⟨"t", "T", true⟩ := by
    decide +kernel
  obtain ⟨-, -, again⟩ := reachable.repeats last
  obtain ⟨ends, spelled⟩ := again "," (by decide +kernel) (by decide +kernel)
  have effect := (spelled (by decide) (by decide +kernel)).2
  have short : "," ++ "s" = ",s" := by decide
  have long : ",s" ++ ("/" ++ "t" ++ "/" ++ "T" ++ "/" ++ if true = true then "g" else "") =
      ",s/t/T/g" := by decide
  dsimp only at effect
  rw [short, long] at effect
  rw [short] at ends
  have goesOn : ((ofText "one\ntwo\nthree").run ["/t/", "s//T/g"]).session.ended = false := by
    decide +kernel
  have lines : (((ofText "one\ntwo\nthree").run ["/t/", "s//T/g"]).next ",s").buffer.lines =
      ["one", "Two", "Three"] := by
    decide +kernel
  have untroubled : (((ofText "one\ntwo\nthree").run ["/t/", "s//T/g"]).next
      ",s").session.lastError ≠ "no match" := by
    decide +kernel
  refine ⟨reachable, last, ?_, effect, lines⟩
  rcases ends goesOn ⟨(some 1, some 3), eq_ok_of_toOption (by decide +kernel)⟩ with
    repeated | ⟨output, -, -, missed⟩
  · exact repeated
  · exact absurd missed untroubled

end Editor

end LineEditor

import LineEditor.Proofs.Editor.Remembering

/-!
# What can be repeated

A substitution is remembered only after it has changed a line.  So the one that
is remembered has a pattern that can be read and is not empty, and its
replacement is a template for that pattern (`Substitution.Valid`).  The pattern
may come from the remembered search, which is never an empty one either
(`Session.Repeatable`).

Every step of every line keeps this up, whether it succeeds, is refused or ends
in a fault that escapes (`Editor.Reachable.repeatable`).
-/

set_option autoImplicit false

namespace LineEditor

/-- A substitution that can be made: its pattern is not empty and can be read, its replacement is a
template for the pattern and holds no slash. -/
structure Substitution.Valid (engine : Pattern.Engine) (substitution : Substitution) : Prop where
  present : substitution.pattern ≠ ""
  template : ∃ compiled pieces, Pattern.read engine substitution.pattern = .ok compiled ∧
    Pattern.Template.read compiled (Pattern.expandReplacement substitution.replacement) = .ok pieces
  unslashed : '/' ∉ substitution.replacement.toList

/-- What a session remembers can be used again. -/
structure Session.Repeatable (engine : Pattern.Engine) (session : Session) : Prop where
  search : session.lastSearch? ≠ some ""
  substitution : ∀ substitution, session.lastSubstitution? = some substitution →
    substitution.Valid engine

namespace Address

variable {engine : Pattern.Engine} {buffer : Buffer} {marks : Marks} {remembered? : Option String}

/-- A pattern that is meant is not empty, unless an empty one is remembered. -/
theorem meant?_present (present : remembered? ≠ some "") {written : List Char} {text : String}
    (meant : meant? remembered? written = some text) : text ≠ "" := by
  rintro rfl
  rw [meant?] at meant
  split at meant
  · exact present meant
  · rename_i filled
    rw [Option.some.injEq, ← String.toList_inj, String.toList_ofList] at meant
    exact filled meant

/-- Resolving a token never leaves an empty pattern to be remembered, unless one is remembered. -/
theorem resolve_present (present : remembered? ≠ some "") (token : String) :
    (resolve engine buffer marks remembered? token).2 ≠ some "" := by
  rw [resolve]
  dsimp only
  split
  · exact present
  · rename_i line after? based
    dsimp only
    generalize Base.ofChars (splitChars token.toList).1 = base at based
    cases base with
    | search isForward body =>
        rw [resolveBase] at based
        cases searched : searchLine engine buffer remembered? isForward body with
        | error fault =>
            rw [searched] at based
            cases based
        | ok found =>
            obtain ⟨other, text⟩ := found
            rw [searched] at based
            cases based
            rw [ne_eq, Option.some.injEq]
            exact meant?_present present (searchLine_meant searched)
    | current | last =>
        cases based
        exact present
    | number digits =>
        rw [kept_of_map based]
        exact present
    | mark name =>
        rw [kept_of_map based]
        exact present

end Address

/-! ## Substitutions that are read -/

namespace Substitution

variable {engine : Pattern.Engine} {args : String} {session : Session}
  {substitution : Substitution}

/-- What is read is valid if its replacement is a template for its pattern. -/
theorem valid_of_read (repeatable : session.Repeatable engine)
    (success : Substitution.read engine args session.lastSubstitution? session.lastSearch? =
      .ok substitution) {compiled : Pattern.Compiled}
    (readable : Pattern.read engine substitution.pattern = .ok compiled) {pieces : Pattern.Template}
    (template : Pattern.Template.read compiled
      (Pattern.expandReplacement substitution.replacement) = .ok pieces) :
    substitution.Valid engine := by
  by_cases bare : args = ""
  · unfold Substitution.read at success
    rw [if_pos bare] at success
    split at success
    · rename_i remembered
      cases success
      exact repeatable.substitution _ remembered
    · cases success
  · unfold Substitution.read at success
    rw [if_neg bare] at success
    obtain ⟨pattern, replacement, suffix, -, split, -, meant, -, same, -⟩ :=
      readFields_eq_ok.mp success
    refine ⟨Address.meant?_present repeatable.search meant,
      ⟨compiled, pieces, readable, template⟩, ?_⟩
    rw [same, String.toList_ofList]
    exact (unslashed_fields split).2

/-- A replacement that is no template lets no line pass. -/
theorem template_of_changes {compiled : Pattern.Compiled} {template : String} {all : Bool}
    {lines : List String} {number : Nat} {changed : List (Nat × String)}
    (made : changes (compiled.replace template all) number lines = .ok changed)
    (some : changed ≠ []) : ∃ pieces, Pattern.Template.read compiled template = .ok pieces := by
  cases lines with
  | nil =>
      cases made
      exact absurd rfl some
  | cons line rest =>
      rw [changes, Pattern.Compiled.replace] at made
      cases read : Pattern.Template.read compiled template with
      | ok pieces => exact ⟨pieces, rfl⟩
      | error fault =>
          rw [read] at made
          cases made

end Substitution

namespace Editor

/-- What an editor remembers can be used again on its platform. -/
def Repeatable (editor : Editor) : Prop :=
  editor.session.Repeatable editor.platform.engine

/-- What can be repeated before can be repeated after. -/
def Repeating (before after : Editor) : Prop :=
  before.Repeatable → after.Repeatable

instance : Unlogged Repeating where
  refl _ := id
  trans earlier later := later ∘ earlier
  logged _ _ := id

variable {touched : List Part} {before after : Editor}

/-- Where the same is remembered on the same platform, it can still be repeated. -/
theorem Repeatable.of_same (repeatable : before.Repeatable)
    (platform : after.platform = before.platform)
    (search : after.session.lastSearch? = before.session.lastSearch?)
    (substitution : after.session.lastSubstitution? = before.session.lastSubstitution?) :
    after.Repeatable := by
  refine ⟨search ▸ repeatable.search, ?_⟩
  rw [platform, substitution]
  exact repeatable.substitution

theorem Untouched.repeating (untouched : before.Untouched touched after)
    (others : .lastSearch ∉ touched ∧ .lastSubstitution ∉ touched ∧ .platform ∉ touched) :
    before.Repeating after := fun repeatable =>
  repeatable.of_same (untouched .platform others.2.2) (untouched .lastSearch others.1)
    (untouched .lastSubstitution others.2.1)

end Editor

namespace EditorM

open Editor (Untouched Repeating)

/-! ## Steps -/

theorem Keeps.repeating {α : Type} {work : EditorM α} {touched : List Part} {accepts : α → Prop}
    (keeps : work.Keeps (Untouched touched) accepts)
    (others : .lastSearch ∉ touched ∧ .lastSubstitution ∉ touched ∧ .platform ∉ touched) :
    work.Keeps Repeating accepts :=
  fun editor => (keeps editor).mono
    (fun _ _ untouched => ⟨untouched.1.repeating others, untouched.2⟩)
    (fun _ _ untouched => untouched.repeating others)

theorem repeating_modifyBuffer (change : Buffer → Except Fault Buffer) :
    (modifyBuffer change).Steps Repeating := by
  intro editor
  rw [ensures_modifyBuffer]
  exact ⟨fun _ _ => ⟨id, trivial⟩, fun _ _ => id⟩

theorem repeating_resolveAddress (token : String) : (resolveAddress token).Steps Repeating := by
  intro editor
  simp only [resolveAddress, ensures_bind, ensures_get, ensures_modifySession, ensures_lift]
  have kept : editor.Repeating (editor.updateSession fun session =>
      { session with
        lastSearch? := (Address.resolve editor.platform.engine editor.buffer editor.session.marks
          editor.session.lastSearch? token).2 }) :=
    fun repeatable => ⟨Address.resolve_present repeatable.search token, repeatable.substitution⟩
  exact ⟨fun _ _ => ⟨kept, trivial⟩, fun _ _ => kept⟩

theorem repeating_destination (args : String) : (destination args).Steps Repeating :=
  .bind (repeating_resolveAddress _) fun _ => .bind steps_get fun _ =>
    .when (keeps_throw _) fun _ => steps_pure _

/-- The changes of a substitution are made of the lines that are meant. -/
theorem changesOf_eq_ok {editor : Editor} {substitution : Substitution} {invocation : Invocation}
    {changed : List (Nat × String)}
    (made : changesOf editor substitution invocation = .ok changed) :
    ∃ compiled lines, Pattern.read editor.platform.engine substitution.pattern = .ok compiled ∧
      editor.buffer.readRange invocation.start invocation.stop = .ok lines ∧
      Substitution.changes
        (compiled.replace (Pattern.expandReplacement substitution.replacement) substitution.all)
        invocation.start lines = .ok changed := by
  rw [changesOf] at made
  cases read : Pattern.read editor.platform.engine substitution.pattern with
  | error fault =>
      rw [read] at made
      cases made
  | ok compiled =>
      rw [read] at made
      cases within : editor.buffer.readRange invocation.start invocation.stop with
      | error fault =>
          simp only [bind, Except.bind, Except.mapError, within] at made
          cases made
      | ok lines =>
          simp only [bind, Except.bind, Except.mapError, within] at made
          exact ⟨compiled, lines, rfl, rfl, made⟩

theorem repeating_substitute (invocation : Invocation) :
    (substitute invocation).Steps Repeating := by
  intro editor
  simp only [substitute, ensures_bind, ensures_get, ensures_lift]
  refine ⟨fun substitution read => ⟨fun changed made => ?_, fun _ _ => id⟩, fun _ _ => id⟩
  obtain ⟨compiled, lines, readable, -, changes⟩ := changesOf_eq_ok made
  split
  · exact (ensures_refuse _).mpr id
  · rename_i last line isLast
    have some : changed ≠ [] := by
      rintro rfl
      cases isLast
    obtain ⟨pieces, template⟩ := Substitution.template_of_changes changes some
    have valid : editor.Repeatable → substitution.Valid editor.platform.engine := fun repeatable =>
      Substitution.valid_of_read repeatable read readable template
    simp only [setCurrent, ensures_bind, ensures_modifyBuffer, ensures_modifySession, ensures_pure]
    refine ⟨fun _ _ => ⟨fun _ _ => ⟨fun repeatable => ?_, trivial⟩, fun _ _ => id⟩, fun _ _ => id⟩
    have valid := valid repeatable
    refine ⟨?_, ?_⟩
    · exact fun empty => valid.present (Option.some.inj empty)
    · rintro _ ⟨⟩
      exact valid

/-- The editor's own handlers keep up that what is remembered can be repeated. -/
theorem repeating_builtin (handler : Builtin) (invocation : Invocation) :
    (handler.run invocation).Steps Repeating := by
  by_cases plain : .lastSearch ∉ handler.parts ∧ .lastSubstitution ∉ handler.parts ∧
      .platform ∉ handler.parts
  · exact (untouched_builtin invocation handler).repeating plain
  · cases handler with
    | moveLines =>
        exact .bind (repeating_destination _) fun _ => .when (keeps_throw _) fun _ =>
          .bind steps_get fun _ => .when (repeating_modifyBuffer _) fun _ => steps_pure _
    | copyLines =>
        exact .bind (repeating_destination _) fun _ => .bind steps_get fun _ =>
          .when (repeating_modifyBuffer _) fun _ => steps_pure _
    | substitute => exact repeating_substitute invocation
    | _ => exact absurd (by decide) plain

/-- What a line plans keeps it up, too. -/
theorem repeating_plan (line : CommandLine) : (plan line).Steps Repeating := by
  have token : ∀ token, (resolveToken token).Steps Repeating := fun token =>
    .ite (steps_pure _) (.bind (repeating_resolveAddress token) fun _ => steps_pure _)
  have lines : (resolveLines line).Steps Repeating :=
    .bind (token _) fun _ => .bind (token _) fun _ => .bind steps_get fun _ => steps_lift _
  refine .bind lines fun _ => .bind steps_get fun _ => ?_
  split
  · exact steps_pure _
  · exact .bind (steps_lift _) fun _ => steps_pure _

theorem repeating_invoke {spec : CommandSpec} (own : spec ∈ Registry.ownCommands)
    (invocation : Invocation) : (invoke spec invocation).Steps Repeating := by
  intro editor
  obtain ⟨handler, isBuiltin⟩ := Registry.own_builtin own
  have called : (call spec invocation).Steps Repeating := by
    intro editor
    rw [call, ensures_span, isBuiltin]
    exact repeating_builtin handler invocation _
  have left : ∀ (inner : Editor) (succeeded : Bool), inner.Repeatable →
      (inner.leaveTransaction succeeded).Repeatable := fun inner succeeded repeatable =>
    repeatable.of_same (by simp) (by simp) (by simp)
  rw [invoke]
  split
  · rw [ensures_transaction]
    refine (called (editor.enterTransaction _)).mono ?_ ?_
    · intro reply inner kept
      split
      · exact ⟨kept.1, trivial⟩
      · exact ⟨fun repeatable => left inner true (kept.1 repeatable), trivial⟩
    · exact fun fault inner kept repeatable => left inner false (kept repeatable)
  · exact called editor

/-! ## Lines -/

variable {editor : Editor} {raw : String}

/-- A command line keeps it up, whether it is answered or a fault escapes. -/
theorem ensures_submit_repeating (equipped : editor.Equipped)
    (awaiting : editor.session.mode = .command) (goesOn : editor.session.ended = false)
    (raw : String) :
    (submit raw).Ensures editor (fun _ after => editor.Repeating after)
      (fun _ after => editor.Repeating after) := by
  have active := equipped.modes.active_command awaiting
  have failed : ∀ (inner : Editor) (fault : Fault), editor.Repeating inner →
      ∀ journal, (∀ refusal, fault = .refusal refusal →
        editor.Repeating (editor.afterRefusal inner refusal journal)) ∧
      (fault.isRoutine = false → editor.Repeating { inner with journal }) := by
    intro inner fault kept journal
    exact ⟨fun refusal _ repeatable => ⟨repeatable.search, (kept repeatable).substitution⟩,
      fun _ => kept⟩
  refine ensures_submit_dispatch ⟨active, goesOn⟩ fun journal => ?_
  rw [dispatch_eq, ensures_bind]
  refine ((repeating_plan _ (editor.told raw journal)).and
    (ensures_plan_bound (withoutLineEnd raw) (editor.told raw journal))).mono ?_ ?_
  · rintro request middle ⟨⟨planned, -⟩, -, bound, -⟩
    have carriedOut :
        (carryOut (CommandLine.scan (withoutLineEnd raw)) request).Steps Repeating := by
      cases request with
      | visit first? last? =>
          have untouched : (navigate (CommandLine.scan (withoutLineEnd raw)) first? last?).Steps
              (Untouched []) := untouched_navigate _ _ _
          exact untouched.repeating (by decide)
      | invoke spec invocation =>
          have registry : (editor.told raw journal).registry = Registry.own := equipped.registry
          simp only [Request.Bound, registry] at bound
          obtain ⟨letter, -, isBound⟩ := Option.bind_eq_some_iff.mp bound
          exact repeating_invoke (Registry.find?_own isBound).1 invocation
    refine (carriedOut middle).mono ?_ ?_
    · rintro reply inner ⟨carried, -⟩ journal
      have untouched : (conclude reply).Steps (Untouched [.lines, .history, .mode, .ended]) :=
        untouched_conclude (by decide) fun _ => by decide
      have kept : editor.Repeating { inner with journal } := carried ∘ planned
      refine (untouched.repeating (by decide) _).mono ?_ ?_
      · exact fun _ _ concluded => Editor.Stepwise.trans kept concluded.1
      · exact fun _ _ concluded => Editor.Stepwise.trans kept concluded
    · exact fun fault inner carried => failed inner fault (carried ∘ planned)
  · exact fun fault inner planned => failed inner fault planned.1

end EditorM

namespace Editor

variable {editor : Editor}

/-- **What a reachable editor remembers can be used again.** -/
theorem Reachable.repeatable (reachable : editor.Reachable) : editor.Repeatable := by
  induction reachable with
  | launched standard success =>
      obtain ⟨launched, same, -, -, session, -⟩ := launch_standard standard _
      obtain rfl := Except.ok.inj (same.symm.trans success)
      rw [Repeatable, session]
      constructor
      · intro impossible
        cases impossible
      · intro substitution impossible
        cases impossible
  | attached reachable input repeatable => exact repeatable
  | @submitted editor reachable raw repeatable =>
      cases ended : editor.session.ended with
      | true =>
          rw [(submit_ended ended raw).2]
          exact repeatable
      | false =>
          cases mode : editor.session.mode with
          | text =>
              obtain ⟨ready, -⟩ := reachable.sound.textReady mode
              cases (ready.step raw).2 with
              | entered other kept buffer lines pending session =>
                  exact repeatable.of_same kept.platform (by rw [session]) (by rw [session])
              | closed ends kept buffer committed pending session =>
                  exact repeatable.of_same kept.platform (by rw [session]) (by rw [session])
          | command =>
              exact EditorM.Ensures.run (fun _ after => editor.Repeating after)
                (EditorM.ensures_submit_repeating reachable.equipped mode ended raw) repeatable

end Editor

end LineEditor

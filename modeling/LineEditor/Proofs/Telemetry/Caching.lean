import LineEditor.Proofs.Telemetry.Uses

/-!
# Loggers are up to date

All loggers of a store have been made from the configuration that is active
(`Store.Coherent`), and what comes after any uses of the log is coherent again,
with the same configuration or a later one (`Store.after_follows`).

The calls that are recorded tell what is made.  As long as no configuration is
adopted, what has been made and what was there before are together what is there
(`Store.Builds`).  So nothing is made twice (`Store.after_builds`).

`Telemetry.loggers_current` puts this together.
-/

set_option autoImplicit false

namespace LineEditor.Telemetry

/-! ## What stays true of a store -/

/-- All loggers have been made from the active configuration, and its number has been given. -/
structure Store.Coherent (store : Store) : Prop where
  numbered : ∀ configuration, store.active? = some configuration →
    configuration.number < store.made
  current : ∀ logger ∈ store.loggers, ∃ configuration,
    store.active? = some configuration ∧ logger.source? = some configuration.number

/-- A store comes after another one: it is still coherent, the default logger has the same name, and
its configuration is the same or a later one. -/
structure Store.Follows (before after : Store) : Prop where
  defaultName : after.defaultName = before.defaultName
  coherent : before.Coherent → after.Coherent
  made : before.made ≤ after.made
  active : after.active? = before.active? ∨
    ∃ configuration, after.active? = some configuration ∧ before.made ≤ configuration.number

/-- The call makes a logger with this name. -/
def Call.makesLogger (name : String) : Call → Bool
  | .logger made => made == name
  | _ => false

/-- The call makes a configuration. -/
def Call.makesConfiguration : Call → Bool
  | .configuration => true
  | _ => false

/-- The calls in between make just what has come into being: the loggers that there are now and were
not before, each of them once, and the configuration, if there was none. -/
structure Store.Builds (before : Store) (new : List Call) (after : Store) : Prop where
  calls : after.calls.toList = before.calls.toList ++ new
  loggers : ∀ name, new.countP (Call.makesLogger name) + (before.logger? name).isSome.toNat =
    (after.logger? name).isSome.toNat
  configuration : new.countP Call.makesConfiguration + before.active?.isSome.toNat =
    after.active?.isSome.toNat

/-- The call makes something. -/
def Call.makes : Call → Bool
  | .configuration => true
  | .logger _ => true
  | _ => false

/-- Calls that make nothing make no configuration and no logger. -/
theorem countP_of_makes_false {calls : List Call} (nothing : ∀ call ∈ calls, call.makes = false) :
    calls.countP Call.makesConfiguration = 0 ∧
      ∀ name, calls.countP (Call.makesLogger name) = 0 := by
  simp only [List.countP_eq_zero]
  refine ⟨fun call member => ?_, fun name call member => ?_⟩
  all_goals
    have nothing := nothing call member
    cases call with
    | configuration => cases nothing
    | logger made => cases nothing
    | _ => exact Bool.false_ne_true

namespace Store

variable {before middle after : Store} {new new' : List Call}

theorem Follows.refl (store : Store) : store.Follows store :=
  ⟨rfl, id, Nat.le_refl _, .inl rfl⟩

theorem Follows.trans (earlier : before.Follows middle) (later : middle.Follows after) :
    before.Follows after where
  defaultName := later.defaultName.trans earlier.defaultName
  coherent := fun coherent => later.coherent (earlier.coherent coherent)
  made := Nat.le_trans earlier.made later.made
  active := by
    rcases later.active with same | ⟨configuration, adopted, number⟩
    · rw [same]
      exact earlier.active
    · exact .inr ⟨configuration, adopted, Nat.le_trans earlier.made number⟩

theorem Builds.refl (store : Store) : store.Builds [] store :=
  ⟨by simp, fun name => by simp, by simp⟩

theorem Builds.trans (earlier : before.Builds new middle) (later : middle.Builds new' after) :
    before.Builds (new ++ new') after where
  calls := by rw [later.calls, earlier.calls, List.append_assoc]
  loggers := by
    intro name
    have first := earlier.loggers name
    have second := later.loggers name
    rw [List.countP_append]
    omega
  configuration := by
    have first := earlier.configuration
    have second := later.configuration
    rw [List.countP_append]
    omega

/-- Where neither the configuration nor the loggers change, only other calls are made. -/
structure Idles (before : Store) (new : List Call) (after : Store) : Prop where
  defaultName : after.defaultName = before.defaultName
  active : after.active? = before.active?
  loggers : after.loggers = before.loggers
  made : after.made = before.made
  calls : after.calls.toList = before.calls.toList ++ new
  nothing : ∀ call ∈ new, call.makes = false

theorem Idles.follows (idles : before.Idles new after) : before.Follows after where
  defaultName := idles.defaultName
  coherent := by
    rintro ⟨numbered, current⟩
    refine ⟨?_, ?_⟩
    · rw [idles.active, idles.made]
      exact numbered
    · rw [idles.active, idles.loggers]
      exact current
  made := Nat.le_of_eq idles.made.symm
  active := .inl idles.active

theorem Idles.builds (idles : before.Idles new after) : before.Builds new after where
  calls := idles.calls
  loggers := by
    intro name
    rw [(countP_of_makes_false idles.nothing).2, Nat.zero_add, logger?, logger?, idles.loggers]
  configuration := by
    rw [(countP_of_makes_false idles.nothing).1, Nat.zero_add, idles.active]

theorem Adopts.follows (adopts : before.Adopts after) : before.Follows after where
  defaultName := adopts.defaultName
  coherent := by
    intro _
    obtain ⟨configuration, active, number⟩ := adopts.active
    refine ⟨fun other found => ?_, fun logger member => ?_⟩
    · rw [active, Option.some.injEq] at found
      rw [← found, number, adopts.made]
      exact Nat.lt_succ_self _
    · rw [adopts.loggers] at member
      cases member
  made := by
    rw [adopts.made]
    exact Nat.le_succ _
  active := by
    obtain ⟨configuration, active, number⟩ := adopts.active
    exact .inr ⟨configuration, active, Nat.le_of_eq number.symm⟩

/-! ## Getting loggers -/

section Getting

variable {outcome : Except Fault Configuration}

theorem Configured.follows (configured : before.Configured outcome after) :
    before.Follows after := by
  cases configured with
  | active found => exact .refl before
  | unreadable inactive failed => exact .refl before
  | made inactive read =>
      refine ⟨rfl, fun coherent => ⟨fun other found => ?_, fun logger member => ?_⟩,
        Nat.le_succ before.made, .inr ⟨_, rfl, Nat.le_refl _⟩⟩
      · cases found
        exact Nat.lt_succ_self before.made
      -- Where no configuration was active, there are no loggers yet.
      · obtain ⟨configuration, active, -⟩ := coherent.current logger member
        cases inactive.symm.trans active

/-- A configuration is made, and then it is only given options. -/
theorem calls_make (store : Store) (options : List (String × Datum)) :
    ∃ others : List Call,
      (store.make options).2.calls.toList = store.calls.toList ++ .configuration :: others ∧
      ∀ call ∈ others, call.makes = false := by
  refine ⟨options.map fun option => .option option.1 option.2, ?_, ?_⟩
  · simp only [make, Store.record, Array.toList_append]
  · simp only [List.forall_mem_map, Call.makes, implies_true]

theorem Configured.builds (configured : before.Configured outcome after) :
    ∃ new, before.Builds new after := by
  cases configured with
  | active found => exact ⟨[], .refl before⟩
  | unreadable inactive failed => exact ⟨[], .refl before⟩
  | @made settings inactive read =>
      obtain ⟨options, calls, nothing⟩ := before.calls_make settings.options
      obtain ⟨noConfiguration, noLogger⟩ := countP_of_makes_false nothing
      refine ⟨.configuration :: options, calls, fun name => ?_, ?_⟩
      · rw [List.countP_cons_of_neg Bool.false_ne_true, noLogger, Nat.zero_add]
        rfl
      · rw [List.countP_cons_of_pos rfl, noConfiguration, inactive]
        rfl

theorem addLogger_follows {configuration : Configuration}
    (active : before.active? = some configuration) (name : String) :
    before.Follows (before.addLogger configuration name).2 where
  defaultName := rfl
  coherent := by
    intro coherent
    refine ⟨coherent.numbered, fun logger member => ?_⟩
    rw [show (before.addLogger configuration name).2.loggers =
      before.loggers ++ [(before.addLogger configuration name).1] from rfl, List.mem_append,
      List.mem_singleton] at member
    rcases member with old | rfl
    · exact coherent.current logger old
    · exact ⟨configuration, active, rfl⟩
  made := Nat.le_refl _
  active := .inl rfl

theorem addLogger_builds {configuration : Configuration} {name : String}
    (missing : before.logger? name = none) :
    before.Builds [.logger name] (before.addLogger configuration name).2 where
  calls := by simp [addLogger, Store.record]
  loggers := by
    intro other
    have found : (before.addLogger configuration name).2.logger? other =
        (before.logger? other).or
          ([(before.addLogger configuration name).1].find? (·.name == other)) :=
      List.find?_append
    rw [found]
    by_cases same : name = other
    · subst same
      simp [missing, addLogger, Call.makesLogger]
    · simp [same, addLogger, Call.makesLogger]
  configuration := by
    rw [List.countP_cons_of_neg Bool.false_ne_true, List.countP_nil, Nat.zero_add]
    rfl

theorem Configured.eq_active {configuration : Configuration}
    (configured : before.Configured (.ok configuration) after) :
    after.active? = some configuration ∧ after.loggers = before.loggers ∧
      (before.active? = some configuration ∨ before.active? = none) := by
  cases configured with
  | active found => exact ⟨found, rfl, .inl found⟩
  | made inactive read => exact ⟨rfl, rfl, .inr inactive⟩

variable {name : String} {got : Except Fault Logger}

theorem Served.follows (served : before.Served name got after) : before.Follows after := by
  cases served with
  | cached found => exact .refl before
  | built missing configured =>
      exact configured.follows.trans (addLogger_follows configured.eq_active.1 name)
  | unreadable missing configured => exact configured.follows

theorem Served.builds (served : before.Served name got after) :
    ∃ new, before.Builds new after := by
  cases served with
  | cached found => exact ⟨[], .refl before⟩
  | @built configuration middle missing configured =>
      obtain ⟨new, builds⟩ := configured.builds
      have still : middle.logger? name = none := by
        rw [← missing, logger?, logger?, configured.eq_active.2.1]
      exact ⟨_, builds.trans (addLogger_builds still)⟩
  | unreadable missing configured => exact configured.builds

/-- **A logger that is got has been made from the configuration that is active then.**  If one was
active before, it is still the same. -/
theorem Served.current {logger : Logger} (served : before.Served name (.ok logger) after)
    (coherent : before.Coherent) :
    logger.name = name ∧ (∃ configuration, after.active? = some configuration ∧
      logger.source? = some configuration.number ∧
      (before.active? = some configuration ∨ before.active? = none)) := by
  cases served with
  | cached found =>
      have member := List.mem_of_find?_eq_some found
      have named := List.find?_some found
      obtain ⟨configuration, active, source⟩ := coherent.current logger member
      exact ⟨eq_of_beq named, configuration, active, source, .inl active⟩
  | @built configuration middle missing configured =>
      obtain ⟨active, -, earlier⟩ := configured.eq_active
      exact ⟨rfl, configuration, active, rfl, earlier⟩

end Getting

/-! ## One use of the log -/

/-- A message makes nothing. -/
theorem makes_log (logger : Logger) (level : Level) (text : String) (fields : Fields) :
    (logger.log level text fields).makes = false := by
  rw [Logger.log]
  cases logger.style with
  | full => rfl
  | plain => rfl

/-- The two ends of a span make nothing. -/
theorem makes_opening (span : Span) : ∀ call ∈ span.opening, call.makes = false := by
  simp only [Span.opening, List.forall_mem_append, List.forall_mem_map, List.forall_mem_singleton,
    Call.makes, implies_true, and_self]

theorem makes_closingWith (span : Span) (metadata : Fields) (fault? : Option Fault) :
    ∀ call ∈ span.closingWith metadata fault?, call.makes = false := by
  have closing : ∀ call ∈ span.closing, call.makes = false := by
    simp only [Span.closing, List.forall_mem_append, List.forall_mem_map,
      List.forall_mem_singleton, Call.makes, implies_true, and_self]
  cases fault? with
  | none => exact closing
  | some fault =>
      rw [Span.closingWith]
      split
      · exact closing
      · rw [List.forall_mem_append, List.forall_mem_singleton]
        exact ⟨makes_log _ _ _ _, closing⟩

/-- A store comes after another one, and only what is new has been made in between. -/
structure Continues (before after : Store) : Prop where
  follows : before.Follows after
  builds : ∃ new, before.Builds new after

theorem Continues.refl (store : Store) : store.Continues store :=
  ⟨.refl store, [], .refl store⟩

theorem Continues.trans (earlier : before.Continues middle) (later : middle.Continues after) :
    before.Continues after := by
  obtain ⟨new, builds⟩ := earlier.builds
  obtain ⟨new', builds'⟩ := later.builds
  exact ⟨earlier.follows.trans later.follows, _, builds.trans builds'⟩

theorem Idles.continues (idles : before.Idles new after) : before.Continues after :=
  ⟨idles.follows, new, idles.builds⟩

theorem continues_aside (store : Store) (environment : Environment) (openSpans : List Fields) :
    store.Continues { store with environment, openSpans } := by
  have idles : store.Idles [] { store with environment, openSpans } :=
    ⟨rfl, rfl, rfl, rfl, by simp, List.forall_mem_nil _⟩
  exact idles.continues

theorem continues_record (store : Store) {calls : List Call}
    (nothing : ∀ call ∈ calls, call.makes = false) : store.Continues (store.record calls) := by
  have idles : store.Idles calls (store.record calls) :=
    ⟨rfl, rfl, rfl, rfl, by simp [Store.record], nothing⟩
  exact idles.continues

end Store

namespace TelemetryM

variable {α β : Type}

/-- However a computation ends, it only makes what is new. -/
def Continues (work : TelemetryM α) : Prop :=
  ∀ store : Store, store.Continues (work.runOn store).2

theorem Continues.bind {first : TelemetryM β} {next : β → TelemetryM α}
    (start : first.Continues) (rest : ∀ result, (next result).Continues) :
    (first >>= next).Continues := by
  intro store
  have middle := start store
  rw [runOn_bind]
  cases run : first.runOn store with
  | mk outcome after =>
      rw [run] at middle
      cases outcome with
      | ok result => exact middle.trans (rest result after)
      | error fault => exact middle

theorem continues_pure (result : α) : (pure result : TelemetryM α).Continues :=
  fun store => .refl store

theorem continues_getLogger (name? : Option String) : (getLogger name?).Continues := by
  intro store
  have served := served_getLogger name? store
  exact ⟨served.follows, served.builds⟩

theorem continues_logMessage (logger : Logger) (level text : String) (fields : Fields) :
    (logMessage logger level text fields).Continues := by
  intro store
  rw [logMessage]
  split
  · refine store.continues_record fun call member => ?_
    rw [List.mem_singleton.mp member]
    exact Store.makes_log logger _ text fields
  · exact .refl store

theorem continues_recordEvent (name level : String) (fields : Fields) (logger? : Option String) :
    (recordEvent name level fields logger?).Continues :=
  (continues_getLogger logger?).bind fun logger =>
    continues_logMessage logger level ("event::" ++ name) fields

theorem continues_enterSpan (request : SpanRequest) : (enterSpan request).Continues := by
  refine (continues_getLogger request.loggerName?).bind fun logger store => ?_
  exact (store.continues_aside store.environment (request.metadata :: store.openSpans)).trans
    (Store.continues_record _ (Store.makes_opening (request.toSpan logger)))

theorem continues_addMetadata (key value : String) : (addMetadata key value).Continues := by
  intro store
  rw [addMetadata, runOn_modify]
  dsimp only
  split
  · exact store.continues_aside store.environment _
  · exact .refl store

end TelemetryM

namespace Store

theorem continues_leave (store : Store) (span : Span) (fault? : Option Fault) :
    store.Continues (store.leave span fault?) :=
  (store.continues_aside store.environment store.openSpans.tail).trans
    (continues_record _ (makes_closingWith span store.currentMetadata fault?))

/-- **A use of the log only makes what is new, unless it adopts a configuration.** -/
theorem next_cases (store : Store) (use : Use) :
    store.Continues (store.next use) ∨
      ∃ sources, use = .configure sources ∧ ((configure sources).runOn store).1 = .ok () ∧
        store.Adopts (store.next use) := by
  cases use with
  | surroundings environment =>
      exact .inl (store.continues_aside environment store.openSpans)
  | configure sources =>
      have reconfigured := reconfigured_configure sources store
      rw [next, Use.run]
      cases run : (configure sources).runOn store with
      | mk outcome after =>
          rw [run] at reconfigured
          cases reconfigured with
          | adopted fit adopts => exact .inr ⟨sources, rfl, by rw [run], adopts⟩
          | failed unfit => exact .inl (.refl _)
  | fetch name? =>
      have continues := TelemetryM.continues_getLogger name?
      exact .inl (continues.bind (fun _ => TelemetryM.continues_pure ()) store)
  | message logger level text fields =>
      exact .inl (TelemetryM.continues_logMessage logger level text fields store)
  | event name level fields logger? =>
      exact .inl (TelemetryM.continues_recordEvent name level fields logger? store)
  | enter request =>
      have continues := TelemetryM.continues_enterSpan request
      exact .inl (continues.bind (fun _ => TelemetryM.continues_pure ()) store)
  | annotate key value => exact .inl (TelemetryM.continues_addMetadata key value store)
  | leave span fault? => exact .inl (store.continues_leave span fault?)

theorem next_follows (store : Store) (use : Use) : store.Follows (store.next use) := by
  rcases store.next_cases use with continues | ⟨sources, -, -, adopts⟩
  · exact continues.follows
  · exact adopts.follows

/-! ## Many uses of the log -/

/-- **What comes after any uses of the log is coherent, and its configuration is the same or a later
one.** -/
theorem after_follows (uses : List Use) : ∀ store : Store, store.Follows (store.after uses) := by
  induction uses with
  | nil => exact .refl
  | cons use others ih => exact fun store => (store.next_follows use).trans (ih (store.next use))

/-- None of the uses adopts a configuration. -/
def AdoptsNothing : Store → List Use → Prop
  | _, [] => True
  | store, use :: others =>
    (∀ sources, use = .configure sources → ((configure sources).runOn store).1 ≠ .ok ()) ∧
      AdoptsNothing (store.next use) others

/-- **As long as no configuration is adopted, only what is new is made.** -/
theorem after_builds (uses : List Use) : ∀ store : Store, store.AdoptsNothing uses →
    ∃ new, store.Builds new (store.after uses) := by
  induction uses with
  | nil => exact fun store _ => ⟨[], .refl store⟩
  | cons use others ih =>
      rintro store ⟨first, rest⟩
      obtain ⟨new, builds⟩ : ∃ new, store.Builds new (store.next use) := by
        rcases store.next_cases use with continues | ⟨sources, same, adopted, -⟩
        · exact continues.builds
        · exact absurd adopted (first sources same)
      obtain ⟨new', builds'⟩ := ih (store.next use) rest
      exact ⟨new ++ new', builds.trans builds'⟩

/-- A store in which nothing has been made is coherent. -/
theorem coherent_fresh (environment : Environment) (defaultName : String) :
    Coherent { environment, defaultName } :=
  ⟨fun _ impossible => by (cases impossible), fun _ member => by (cases member)⟩

theorem coherent_after (environment : Environment) (defaultName : String) (uses : List Use) :
    (after { environment, defaultName } uses).Coherent :=
  (after_follows uses _).coherent (coherent_fresh environment defaultName)

end Store

/-! ## The main result -/

section Parts

variable {store : Store}

/-- A logger that is got is up to date, and none is got only if there is no configuration and none
can be made. -/
theorem runOn_getLogger (coherent : store.Coherent) (name? : Option String) :
    (∀ logger after, (getLogger name?).runOn store = (.ok logger, after) →
      logger.name = askedName store.defaultName name? ∧ ∃ configuration,
        after.active? = some configuration ∧ logger.source? = some configuration.number ∧
        (store.active? = some configuration ∨ store.active? = none)) ∧
    ∀ fault after, (getLogger name?).runOn store = (.error fault, after) →
      after = store ∧ store.active? = none ∧
        Settings.ofEnvironment store.environment = .error fault := by
  have served := served_getLogger name? store
  constructor
  · intro logger after run
    rw [run] at served
    exact served.current coherent
  · intro fault after run
    rw [run] at served
    cases served with
    | unreadable missing configured =>
        cases configured with
        | unreadable inactive failed => exact ⟨rfl, inactive, failed⟩

/-- No other configuration ever has the number of the one that is active. -/
theorem Store.Follows.same_configuration {after : Store} (follows : store.Follows after)
    (coherent : store.Coherent) {configuration other : Configuration}
    (active : store.active? = some configuration) (later : after.active? = some other)
    (same : other.number = configuration.number) : other = configuration := by
  have numbered := coherent.numbered configuration active
  rcases follows.active with kept | ⟨adopted, found, number⟩
  · rw [kept, active, Option.some.injEq] at later
    exact later.symm
  · rw [found, Option.some.injEq] at later
    subst later
    omega

/-- Nothing is made twice, and no configuration if there is one. -/
theorem Store.Builds.once {new : List Call} {after : Store} (builds : store.Builds new after) :
    (∀ name, new.countP (Call.makesLogger name) ≤ 1) ∧
      new.countP Call.makesConfiguration ≤ 1 ∧
      (store.active?.isSome → new.countP Call.makesConfiguration = 0) := by
  have configuration := builds.configuration
  have bound := Bool.toNat_le after.active?.isSome
  refine ⟨fun name => ?_, by omega, fun active => ?_⟩
  · have loggers := builds.loggers name
    have bound := Bool.toNat_le (after.logger? name).isSome
    omega
  · rw [active, Bool.toNat_true] at configuration
    omega

/-- Configuring fails for the reasons that there are, without having changed anything, and otherwise
a new configuration is active from then on, and no logger. -/
theorem runOn_configure (sources : List Source) :
    (∀ fault after, (configure sources).runOn store = (.error fault, after) →
      after = store ∧ Unfit store.environment sources fault) ∧
    (∀ after, (configure sources).runOn store = (.ok (), after) →
      store.Adopts after ∧ ∀ fault, ¬Unfit store.environment sources fault) := by
  have reconfigured := reconfigured_configure sources store
  constructor
  · intro fault after run
    rw [run] at reconfigured
    cases reconfigured with
    | failed unfit => exact ⟨rfl, unfit⟩
  · intro after run
    rw [run] at reconfigured
    cases reconfigured with
    | adopted fit adopts => exact ⟨adopts, fit⟩

end Parts

/-- **Loggers are up to date.**  Take a store in which nothing has been made, and the store that it
becomes by any uses of the log, in whatever surroundings, whatever its loggers are called by default
and whether or not the uses have failed.

A logger that is got then has the name that was asked for and has been made from the configuration
that is active then, which is the one that was active before, if there was one.  Nothing else can
happen but that no configuration was active and the environment cannot be read, and then nothing
changes.  Configurations are told apart by their numbers, however long the log is used.

As long as no configuration is adopted, each logger is made at most once, and at most one
configuration is made, from the environment; if one was active before, none is made.  Configuring
fails exactly if the sources are unfit, and then nothing changes; otherwise a new configuration is
active, and no logger has been made from it.

A span is a use of the log that enters it, what is done in it, and a use that leaves it. -/
theorem loggers_current (environment : Environment) (defaultName : String) (uses : List Use) :
    let store := Store.after { environment, defaultName } uses
    (∀ name?,
      (∀ logger after, (getLogger name?).runOn store = (.ok logger, after) →
        logger.name = askedName defaultName name? ∧ ∃ configuration,
          after.active? = some configuration ∧ logger.source? = some configuration.number ∧
          (store.active? = some configuration ∨ store.active? = none)) ∧
      ∀ fault after, (getLogger name?).runOn store = (.error fault, after) →
        after = store ∧ store.active? = none ∧
          Settings.ofEnvironment store.environment = .error fault) ∧
    (∀ later configuration configuration', store.active? = some configuration →
      (store.after later).active? = some configuration' →
      configuration'.number = configuration.number → configuration' = configuration) ∧
    (∀ stretch, store.AdoptsNothing stretch → ∃ new : List Call,
      (store.after stretch).calls.toList = store.calls.toList ++ new ∧
      (∀ name, new.countP (Call.makesLogger name) ≤ 1) ∧
      new.countP Call.makesConfiguration ≤ 1 ∧
      (store.active?.isSome → new.countP Call.makesConfiguration = 0)) ∧
    (∀ sources,
      (∀ fault after, (configure sources).runOn store = (.error fault, after) →
        after = store ∧ Unfit store.environment sources fault) ∧
      ∀ after, (configure sources).runOn store = (.ok (), after) →
        store.Adopts after ∧ ∀ fault, ¬Unfit store.environment sources fault) ∧
    ∀ {α : Type} (request : SpanRequest) (work : Span → TelemetryM α),
      (withSpan request work).runOn store =
        match (enterSpan request).runOn store with
        | (.ok span, entered) =>
          match (work span).runOn entered with
          | (.ok result, inner) => (.ok result, inner.leave span none)
          | (.error fault, inner) => (.error fault, inner.leave span (some fault))
        | (.error fault, after) => (.error fault, after) := by
  intro store
  have coherent : store.Coherent := Store.coherent_after environment defaultName uses
  have named : store.defaultName = defaultName := (Store.after_follows uses _).defaultName
  clear_value store
  subst named
  refine ⟨runOn_getLogger coherent, ?_, ?_, runOn_configure, ?_⟩
  · intro later configuration configuration' active active' same
    exact (Store.after_follows later store).same_configuration coherent active active' same
  · intro stretch adoptsNothing
    obtain ⟨new, builds⟩ := Store.after_builds stretch store adoptsNothing
    exact ⟨new, builds.calls, builds.once⟩
  · exact fun request work => runOn_withSpan request work store

/-- The environment cannot be read, so the first logger is not got.  Then one preset is adopted and
another one is not, and the loggers come from the first one. -/
theorem loggers_current_unreadable :
    let store := Store.after { environment := [("LOG_BUFFER_SIZE", "many")] }
      [.fetch none, .configure [.preset "Quiet"], .fetch (some "one"), .configure [.preset "loud"]]
    store.active?.map (·.number) = some 0 ∧
      (∃ logger after, (getLogger (some "one")).runOn store = (.ok logger, after) ∧
        logger.name = "one" ∧ logger.source? = some 0) ∧
      store.AdoptsNothing [.fetch (some "two"), .fetch (some "two")] ∧
      (∃ new : List Call,
        (store.after [.fetch (some "two"), .fetch (some "two")]).calls.toList =
          store.calls.toList ++ new ∧ new.countP (Call.makesLogger "two") ≤ 1) ∧
      ∃ fault, (configure [.preset "loud"]).runOn store = (.error fault, store) := by
  intro store
  have number : store.active?.map (·.number) = some 0 := by decide +kernel
  obtain ⟨configuration, active, first⟩ := Option.map_eq_some_iff.mp number
  obtain ⟨got, -, made, configured, -⟩ := loggers_current [("LOG_BUFFER_SIZE", "many")]
    defaultLoggerName
    [.fetch none, .configure [.preset "Quiet"], .fetch (some "one"), .configure [.preset "loud"]]
  have adoptsNothing : store.AdoptsNothing [.fetch (some "two"), .fetch (some "two")] :=
    ⟨nofun, nofun, trivial⟩
  refine ⟨number, ?_, adoptsNothing, ?_, ?_⟩
  · cases run : (getLogger (some "one")).runOn store with
    | mk outcome after =>
        cases outcome with
        | ok logger =>
            obtain ⟨named, other, -, source, same | impossible⟩ :=
              (got (some "one")).1 logger after run
            · cases active.symm.trans same
              exact ⟨logger, after, rfl, named, by rw [source, first]⟩
            · cases active.symm.trans impossible
        | error fault =>
            obtain ⟨-, impossible, -⟩ := (got (some "one")).2 fault after run
            cases active.symm.trans impossible
  · obtain ⟨new, calls, loggers, -⟩ := made _ adoptsNothing
    exact ⟨new, calls, loggers "two"⟩
  · cases run : (configure [.preset "loud"]).runOn store with
    | mk outcome after =>
        cases outcome with
        | ok done =>
            exact absurd (.preset (by decide +kernel))
              (((configured _).2 after run).2 (.unknownPreset "loud"))
        | error fault => exact ⟨fault, by rw [((configured _).1 fault after run).1]⟩

end LineEditor.Telemetry

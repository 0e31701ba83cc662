import LineEditor.Telemetry.Store

/-!
# Using the log

A program uses the log by one call after the other, some of which may fail, and
its surroundings may change meanwhile (`Telemetry.Use`, `Store.after`).  A span
is two uses: it is entered, and it is left behind what is done in it
(`Telemetry.runOn_withSpan`).

There is one description for each thing that a use can do with the configuration
and the loggers.  A store comes by a logger because it has it, or by making it
from its configuration, which it makes first if none is active
(`Telemetry.served_getLogger`).  Configuring adopts a new configuration, or its
sources are unfit and it changes nothing (`Telemetry.reconfigured_configure`).
-/

set_option autoImplicit false

namespace LineEditor.Telemetry

namespace TelemetryM

variable {α β : Type}

/-- Runs a computation with a store. -/
def runOn (computation : TelemetryM α) (store : Store) : Except Fault α × Store :=
  (ExceptT.run computation).run store

@[simp] theorem runOn_get (store : Store) :
    (get : TelemetryM Store).runOn store = (.ok store, store) := rfl

@[simp] theorem runOn_modify (change : Store → Store) (store : Store) :
    (modify change : TelemetryM PUnit).runOn store = (.ok ⟨⟩, change store) := rfl

@[simp] theorem runOn_lift (outcome : Except Fault α) (store : Store) :
    (liftM outcome : TelemetryM α).runOn store = (outcome, store) := rfl

/-- A sequence goes on from where its first part has ended. -/
theorem runOn_bind (first : TelemetryM β) (next : β → TelemetryM α) (store : Store) :
    (first >>= next).runOn store =
      match first.runOn store with
      | (.ok result, middle) => (next result).runOn middle
      | (.error fault, middle) => (.error fault, middle) := by
  simp only [runOn, ExceptT.run_bind, StateT.run_bind]
  cases (ExceptT.run first).run store with
  | mk outcome middle => cases outcome <;> rfl

end TelemetryM

/-! ## Uses of the log -/

/-- Enters a span. -/
def enterSpan (request : SpanRequest) : TelemetryM Span := do
  let span := request.toSpan (← getLogger request.loggerName?)
  modify fun store =>
    { store with openSpans := span.metadata :: store.openSpans }.record span.opening
  return span

/-- **A span is entered before what is done in it and left behind it.** -/
theorem runOn_withSpan {α : Type} (request : SpanRequest) (work : Span → TelemetryM α)
    (store : Store) :
    (withSpan request work).runOn store =
      match (enterSpan request).runOn store with
      | (.ok span, entered) =>
        match (work span).runOn entered with
        | (.ok result, inner) => (.ok result, inner.leave span none)
        | (.error fault, inner) => (.error fault, inner.leave span (some fault))
      | (.error fault, after) => (.error fault, after) := by
  simp only [withSpan, enterSpan, TelemetryM.runOn_bind]
  cases (getLogger request.loggerName?).runOn store with
  | mk outcome middle =>
      cases outcome with
      | ok logger => rfl
      | error fault => rfl

/-- What is done with the log, one thing at a time.  A span is entered, and it is left later on,
perhaps because of a fault. -/
inductive Use where
  | surroundings (environment : Environment)
  | configure (sources : List Source)
  | fetch (name? : Option String)
  | message (logger : Logger) (level text : String) (fields : Fields)
  | event (name level : String) (fields : Fields) (logger? : Option String)
  | enter (request : SpanRequest)
  | annotate (key value : String)
  | leave (span : Span) (fault? : Option Fault)

/-- What a use does. -/
def Use.run : Use → TelemetryM Unit
  | .surroundings environment => modify ({ · with environment })
  | .configure sources => Telemetry.configure sources
  | .fetch name? => do
    let _ ← getLogger name?
    return ()
  | .message logger level text fields => logMessage logger level text fields
  | .event name level fields logger? => recordEvent name level fields logger?
  | .enter request => do
    let _ ← enterSpan request
    return ()
  | .annotate key value => addMetadata key value
  | .leave span fault? => modify (·.leave span fault?)

/-- The store after a use, whether or not it has failed. -/
def Store.next (store : Store) (use : Use) : Store :=
  (use.run.runOn store).2

/-- The store after one use after the other. -/
def Store.after (store : Store) (uses : List Use) : Store :=
  uses.foldl Store.next store

/-! ## What getting a logger does -/

/-- How a store comes by its configuration: it is active, or it is made from the environment, if
that can be read. -/
inductive Store.Configured (store : Store) : Except Fault Configuration → Store → Prop
  | active {configuration : Configuration} (found : store.active? = some configuration) :
      Configured store (.ok configuration) store
  | made {settings : Settings} (inactive : store.active? = none)
      (read : Settings.ofEnvironment store.environment = .ok settings) :
      Configured store (.ok (store.make settings.options).1)
        { (store.make settings.options).2 with active? := some (store.make settings.options).1 }
  | unreadable {fault : Fault} (inactive : store.active? = none)
      (failed : Settings.ofEnvironment store.environment = .error fault) :
      Configured store (.error fault) store

theorem configured_ensureConfiguration (store : Store) :
    store.Configured (ensureConfiguration.runOn store).1 (ensureConfiguration.runOn store).2 := by
  simp only [ensureConfiguration, TelemetryM.runOn_bind, TelemetryM.runOn_get]
  cases active : store.active? with
  | some configuration => exact .active active
  | none =>
      simp only [TelemetryM.runOn_bind]
      cases read : Settings.ofEnvironment store.environment with
      | ok settings => exact .made active read
      | error fault => exact .unreadable active read

/-- How a store comes by a logger: it has been made before, or it is made from the configuration
that is active then, if there is one. -/
inductive Store.Served (store : Store) (name : String) : Except Fault Logger → Store → Prop
  | cached {logger : Logger} (found : store.logger? name = some logger) :
      Served store name (.ok logger) store
  | built {configuration : Configuration} {middle : Store} (missing : store.logger? name = none)
      (configured : store.Configured (.ok configuration) middle) :
      Served store name (.ok (middle.addLogger configuration name).1)
        (middle.addLogger configuration name).2
  | unreadable {fault : Fault} {middle : Store} (missing : store.logger? name = none)
      (configured : store.Configured (.error fault) middle) :
      Served store name (.error fault) middle

/-- The name of the logger that is asked for, which is the default one if none is named. -/
def askedName (defaultName : String) (name? : Option String) : String :=
  (name?.filter (· != "")).getD defaultName

theorem served_getLogger (name? : Option String) (store : Store) :
    store.Served (askedName store.defaultName name?) ((getLogger name?).runOn store).1
      ((getLogger name?).runOn store).2 := by
  rw [getLogger, TelemetryM.runOn_bind, TelemetryM.runOn_get]
  dsimp only
  rw [← askedName]
  cases found : store.logger? (askedName store.defaultName name?) with
  | some logger => exact .cached found
  | none =>
      have configured := configured_ensureConfiguration store
      rw [TelemetryM.runOn_bind]
      cases run : ensureConfiguration.runOn store with
      | mk outcome middle =>
          rw [run] at configured
          cases outcome with
          | ok configuration => exact .built found configured
          | error fault => exact .unreadable found configured

/-! ## What configuring does -/

/-- The names of the presets. -/
def presets : List String := ["development", "production", "quiet"]

/-- Why no configuration comes of sources: there is more than one, or it is a preset that does not
exist, or there is none and the environment cannot be read. -/
inductive Unfit (environment : Environment) : List Source → Fault → Prop
  | several (first second : Source) (others : List Source) :
      Unfit environment (first :: second :: others) .severalSources
  | preset {name : String}
      (unknown : Text.lowerPlainText name ∉ presets) :
      Unfit environment [.preset name] (.unknownPreset name)
  | unreadable {sources : List Source} {fault : Fault}
      (unnamed : sources = [] ∨ sources = [.environment])
      (failed : Settings.ofEnvironment environment = .error fault) :
      Unfit environment sources fault

theorem Unfit.single {environment : Environment} {source : Source} {fault : Fault}
    (unfit : Unfit environment [source] fault) :
    source = .environment ∨ ∃ name, source = .preset name ∧ Text.lowerPlainText name ∉ presets := by
  cases unfit with
  | preset unknown => exact .inr ⟨_, rfl, unknown⟩
  | unreadable unnamed _ =>
      rcases unnamed with impossible | same
      · cases impossible
      · cases same
        exact .inl rfl

/-- A configuration that is new has been adopted, and no logger has been made from it so far. -/
structure Store.Adopts (before after : Store) : Prop where
  defaultName : after.defaultName = before.defaultName
  active : ∃ configuration, after.active? = some configuration ∧
    configuration.number = before.made
  made : after.made = before.made + 1
  loggers : after.loggers = []

/-- A preset is known by its name, in whatever case. -/
theorem ofPreset_cases (environment : Environment) (name : String) :
    (Text.lowerPlainText name ∈ presets ∧
      ∃ settings, Settings.ofPreset environment name = .ok settings) ∨
    (Text.lowerPlainText name ∉ presets ∧
      Settings.ofPreset environment name = .error (.unknownPreset name)) := by
  rw [Settings.ofPreset]
  generalize Text.lowerPlainText name = word
  simp only [beq_iff_eq]
  split
  · rename_i development
    exact .inl ⟨by rw [development]; decide, _, rfl⟩
  split
  · rename_i production
    exact .inl ⟨by rw [production]; decide, _, rfl⟩
  split
  · rename_i quiet
    exact .inl ⟨by rw [quiet]; decide, _, rfl⟩
  · rename_i noDevelopment noProduction noQuiet
    refine .inr ⟨?_, rfl⟩
    simp only [presets, List.mem_cons, List.not_mem_nil, or_false, not_or]
    exact ⟨noDevelopment, noProduction, noQuiet⟩

/-- How configuring ends: a new configuration has been adopted, or nothing has changed. -/
inductive Store.Reconfigured (store : Store) (sources : List Source) :
    Except Fault Unit → Store → Prop
  | adopted {after : Store} (fit : ∀ fault, ¬Unfit store.environment sources fault)
      (adopts : store.Adopts after) : Reconfigured store sources (.ok ()) after
  | failed {fault : Fault} (unfit : Unfit store.environment sources fault) :
      Reconfigured store sources (.error fault) store

/-- Settings from the environment. -/
theorem reconfigured_unnamed {store : Store} {sources : List Source}
    (unnamed : sources = [] ∨ sources = [.environment]) :
    store.Reconfigured sources ((configure sources).runOn store).1
      ((configure sources).runOn store).2 := by
  have run : (configure sources).runOn store =
      match Settings.ofEnvironment store.environment with
      | .ok settings => (.ok (), (store.make settings.options).2.adopt
          (store.make settings.options).1)
      | .error fault => (.error fault, store) := by
    rcases unnamed with rfl | rfl
    all_goals
      simp only [configure, TelemetryM.runOn_bind, TelemetryM.runOn_get, TelemetryM.runOn_lift]
      cases Settings.ofEnvironment store.environment with
      | ok settings => rfl
      | error fault => rfl
  rw [run]
  cases read : Settings.ofEnvironment store.environment with
  | ok settings =>
      refine .adopted (fun fault unfit => ?_) ⟨rfl, ⟨_, rfl, rfl⟩, rfl, rfl⟩
      cases unfit with
      | several first second others =>
          rcases unnamed with impossible | impossible <;> cases impossible
      | preset unknown =>
          rcases unnamed with impossible | impossible <;> cases impossible
      | unreadable _ failed => cases read.symm.trans failed
  | error fault => exact .failed (.unreadable unnamed read)

theorem reconfigured_preset (store : Store) (name : String) :
    store.Reconfigured [.preset name] ((configure [.preset name]).runOn store).1
      ((configure [.preset name]).runOn store).2 := by
  simp only [configure, TelemetryM.runOn_bind, TelemetryM.runOn_get]
  rcases ofPreset_cases store.environment name with ⟨known, settings, found⟩ | ⟨unknown, missing⟩
  · rw [found]
    refine .adopted (fun fault unfit => ?_) ⟨rfl, ⟨_, rfl, rfl⟩, rfl, rfl⟩
    obtain ⟨⟨⟩⟩ | ⟨name, ⟨⟩, unknown⟩ := unfit.single
    exact unknown known
  · rw [missing]
    exact .failed (.preset unknown)

/-- **A new configuration is adopted, or the sources are unfit and nothing changes.** -/
theorem reconfigured_configure (sources : List Source) (store : Store) :
    store.Reconfigured sources ((configure sources).runOn store).1
      ((configure sources).runOn store).2 := by
  match sources with
  | [] => exact reconfigured_unnamed (.inl rfl)
  | [.environment] => exact reconfigured_unnamed (.inr rfl)
  | [.settings settings] =>
      refine .adopted (fun fault unfit => ?_) ⟨rfl, ⟨_, rfl, rfl⟩, rfl, rfl⟩
      obtain ⟨⟨⟩⟩ | ⟨name, ⟨⟩, -⟩ := unfit.single
  | [.given options] =>
      refine .adopted (fun fault unfit => ?_) ⟨rfl, ⟨_, rfl, rfl⟩, rfl, rfl⟩
      obtain ⟨⟨⟩⟩ | ⟨name, ⟨⟩, -⟩ := unfit.single
  | [.preset name] => exact reconfigured_preset store name
  | first :: second :: others => exact .failed (.several first second others)

end LineEditor.Telemetry

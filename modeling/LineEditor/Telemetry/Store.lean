import LineEditor.Telemetry.Settings

/-!
# The log's configuration and its loggers

The store holds the configuration that is active and the loggers made from it.
A configuration is made from the environment when the first logger asks for one
and none is active.  Adopting another configuration drops all loggers, so no
logger outlives the configuration it was made from.

Computations with the store may fail, as the environment may hold settings that cannot
be read; what they did before they failed stays done.  `configure` fails before
it changes anything but the record of calls.
-/

set_option autoImplicit false

namespace LineEditor.Telemetry

/-- A configuration: the how-manyth one it is, and its options. -/
structure Configuration where
  number : Nat
  options : List (String × Datum)

/-- The name of the default logger, unless it is given another one before the log is used. -/
def defaultLoggerName : String := "ed_engine"

/-- The active configuration, the loggers, the name of the logger that is meant where none is named,
the number of configurations made, the metadata of the spans that are open, the innermost first, and
the calls made so far. -/
structure Store where
  environment : Environment := []
  defaultName : String := defaultLoggerName
  active? : Option Configuration := none
  loggers : List Logger := []
  made : Nat := 0
  openSpans : List Fields := []
  calls : Array Call := #[]

/-- A computation with the store. -/
abbrev TelemetryM := ExceptT Fault (StateM Store)

namespace Store

/-- The store with more calls made. -/
def record (store : Store) (calls : List Call) : Store :=
  { store with calls := store.calls ++ calls.toArray }

/-- Makes a configuration and gives it options. -/
def make (store : Store) (options : List (String × Datum)) : Configuration × Store :=
  let made := { store with made := store.made + 1 }
  (⟨store.made, options⟩,
    made.record (.configuration :: options.map fun (name, value) => .option name value))

/-- Adopts a configuration; the loggers made from the one before are dropped. -/
def adopt (store : Store) (configuration : Configuration) : Store :=
  { store with active? := some configuration, loggers := [] }

/-- The logger with a name, if it has been made. -/
def logger? (store : Store) (name : String) : Option Logger :=
  store.loggers.find? (·.name == name)

/-- Makes a logger from a configuration. -/
def addLogger (store : Store) (configuration : Configuration) (name : String) : Logger × Store :=
  let logger : Logger := { name, source? := some configuration.number }
  (logger, { store with loggers := store.loggers ++ [logger] }.record [.logger name])

end Store

/-- Makes calls. -/
def record (calls : List Call) : TelemetryM Unit :=
  modify (·.record calls)

/-- The active configuration; the first time, it is made from the environment. -/
def ensureConfiguration : TelemetryM Configuration := do
  let store ← get
  match store.active? with
  | some configuration => return configuration
  | none =>
    let settings ← (Settings.ofEnvironment store.environment : Except Fault Settings)
    let (configuration, made) := store.make settings.options
    set { made with active? := some configuration }
    return configuration

/-- Where a new configuration comes from. -/
inductive Source where
  | environment
  | settings (settings : Settings)
  | given (options : List (String × Datum))
  | preset (name : String)

/-- Adopts a new configuration.  At most one source may be named. -/
def configure (sources : List Source) : TelemetryM Unit := do
  let store ← get
  match sources with
  | _ :: _ :: _ => throw .severalSources
  | [.preset name] =>
    let settings ← (Settings.ofPreset store.environment name : Except Fault Settings)
    let (configuration, made) := store.make settings.options
    set (made.adopt configuration)
  | [.given options] =>
    let profiling := ("with_profiling", Datum.boolean true)
    let given := { store with made := store.made + 1 }.record [.option profiling.1 profiling.2]
    set (given.adopt ⟨store.made, options ++ [profiling]⟩)
  | [.settings settings] =>
    let (configuration, made) := store.make settings.options
    set (made.adopt configuration)
  | _ =>
    let settings ← (Settings.ofEnvironment store.environment : Except Fault Settings)
    let (configuration, made) := store.make settings.options
    set (made.adopt configuration)

/-- The logger with a name, or the default one. -/
def getLogger (name? : Option String) : TelemetryM Logger := do
  let store ← get
  let name := (name?.filter (· != "")).getD store.defaultName
  match store.logger? name with
  | some logger => return logger
  | none =>
    let configuration ← ensureConfiguration
    let (logger, store) := (← get).addLogger configuration name
    set store
    return logger

/-- Logs a message. -/
def logMessage (logger : Logger) (level text : String) (fields : Fields) : TelemetryM Unit :=
  match Level.ofName? level with
  | some level => record [logger.log level text fields]
  | none => throw (.unknownLevel level)

/-- Logs an event. -/
def recordEvent (name : String) (level : String) (fields : Fields) (logger? : Option String) :
    TelemetryM Unit := do
  logMessage (← getLogger logger?) level ("event::" ++ name) fields

/-- What a span is asked to be: the component may be left to the name of the span. -/
structure SpanRequest where
  name : String
  loggerName? : Option String := none
  component? : Option String := none
  metadata : Fields := []

/-- The span that is asked for. -/
def SpanRequest.toSpan (request : SpanRequest) (logger : Logger) : Span :=
  { logger, name := request.name, component? := request.component?.filter (· != "")
    metadata := request.metadata }

/-- Adds to the metadata of the innermost open span. -/
def addMetadata (key value : String) : TelemetryM Unit :=
  modify fun store =>
    match store.openSpans with
    | metadata :: outer => { store with openSpans := Fields.assign metadata key value :: outer }
    | [] => store

/-- The metadata of the innermost open span. -/
def Store.currentMetadata (store : Store) : Fields :=
  store.openSpans.headD []

/-- Leaves the innermost open span. -/
def Store.leave (store : Store) (span : Span) (fault? : Option Fault) : Store :=
  { store with openSpans := store.openSpans.tail }.record
    (span.closingWith store.currentMetadata fault?)

/-- Does work inside a span, whose fault is reported if it is not routine. -/
def withSpan {α : Type} (request : SpanRequest) (work : Span → TelemetryM α) :
    TelemetryM α := do
  let span := request.toSpan (← getLogger request.loggerName?)
  modify fun store =>
    { store with openSpans := span.metadata :: store.openSpans }.record span.opening
  ExceptT.mk fun store =>
    match (work span).run store with
    | (.ok result, inner) => (.ok result, inner.leave span none)
    | (.error fault, inner) => (.error fault, inner.leave span (some fault))

end LineEditor.Telemetry

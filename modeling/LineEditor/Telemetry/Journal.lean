import LineEditor.Telemetry.Store

/-!
# The journal of a running editor

Once an editor runs, a configuration is active and stays so, and nothing that
the editor tells the log can fail.  The journal is the store in that situation:
the configuration, the loggers made from it, and the calls made so far.
-/

set_option autoImplicit false

namespace LineEditor.Telemetry

/-- An active configuration, its loggers, the name of the default one, and the calls made so far. -/
structure Journal where
  configuration : Configuration
  defaultName : String := defaultLoggerName
  loggers : List Logger := []
  calls : Array Call := #[]

namespace Journal

/-- The journal with more calls made. -/
def record (journal : Journal) (calls : List Call) : Journal :=
  { journal with calls := journal.calls ++ calls.toArray }

/-- The logger with a name and the journal in which it has been made. -/
def logger (journal : Journal) (name : String) : Logger × Journal :=
  match journal.loggers.find? (·.name == name) with
  | some logger => (logger, journal)
  | none =>
    let logger : Logger := { name, source? := some journal.configuration.number }
    (logger, { journal with loggers := journal.loggers ++ [logger] }.record [.logger name])

/-- Makes a logger ahead of its use. -/
def prepare (journal : Journal) (name : String) : Journal :=
  (journal.logger name).2

/-- Logs a message. -/
def message (journal : Journal) (loggerName : String) (level : Level) (text : String)
    (fields : Fields) : Journal :=
  let (logger, prepared) := journal.logger loggerName
  prepared.record [logger.log level text fields]

/-- Logs an event. -/
def event (journal : Journal) (name : String) (fields : Fields) : Journal :=
  journal.message journal.defaultName .debug ("event::" ++ name) fields

/-- Enters a span of the default logger: the span, and the journal inside of it. -/
def enter (journal : Journal) (request : SpanRequest) : Span × Journal :=
  let (logger, prepared) := journal.logger (request.loggerName?.getD journal.defaultName)
  let span := request.toSpan logger
  (span, prepared.record span.opening)

/-- Leaves a span, because of a fault if there is one. -/
def leave (journal : Journal) (span : Span) (fault? : Option Fault) : Journal :=
  journal.record (span.closingWith span.metadata fault?)

end Journal

/-- The journal that goes on from a store. -/
def openJournal : TelemetryM Journal := do
  let configuration ← ensureConfiguration
  let store ← get
  let { defaultName, loggers, calls, .. } := store
  return { configuration, defaultName, loggers, calls }

end LineEditor.Telemetry

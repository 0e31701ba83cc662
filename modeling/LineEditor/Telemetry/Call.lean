import LineEditor.Fault
import LineEditor.Telemetry.Datum

/-!
# Calls on the log

What the editor tells the log is a list of calls, in order: configurations are
made and set up, loggers are made from them, messages are logged, and spans are
entered and left.

A span profiles a stretch of work under a name, may also track it as a
component, and puts its metadata on the logger's context meanwhile.
`Span.opening` and `Span.closing` are the calls at its two ends; every call of
the one has its counterpart in the other.
-/

set_option autoImplicit false

namespace LineEditor.Telemetry

/-- How a logger takes fields: beside the message, or written into it. -/
inductive Style where
  | full
  | plain
  deriving DecidableEq

/-- A logger, and the number of the configuration it was made from if it was made here. -/
structure Logger where
  name : String
  style : Style := .full
  source? : Option Nat := none
  deriving DecidableEq

/-- How grave a message is. -/
inductive Level where
  | debug
  | info
  | warning
  | error
  | critical
  deriving DecidableEq

namespace Level

/-- The name of a level. -/
def name : Level → String
  | .debug => "debug"
  | .info => "info"
  | .warning => "warning"
  | .error => "error"
  | .critical => "critical"

/-- The level with a name, in whatever case. -/
def ofName? (name : String) : Option Level :=
  [Level.debug, .info, .warning, .error, .critical].find? (·.name == name.map Char.toLower)

end Level

/-- One call on the log. -/
inductive Call where
  | configuration
  | option (name : String) (value : Datum)
  | logger (name : String)
  | addContext (logger key value : String)
  | removeContext (logger key : String)
  | track (logger name : String)
  | endTrack (logger name : String)
  | profile (logger name : String)
  | endProfile (logger name : String)
  | message (logger : String) (level : Level) (text : String) (fields? : Option Fields)

/-- Fields as they are written into a message. -/
def Fields.inline (fields : Fields) : String :=
  " | ".intercalate (fields.map fun (key, value) => key ++ "=" ++ value)

/-- The call that logs a message with fields. -/
def Logger.log (logger : Logger) (level : Level) (text : String) (fields : Fields) : Call :=
  match logger.style with
  | .full => .message logger.name level text (some fields)
  | .plain =>
    let whole := if fields.isEmpty then text else text ++ " | " ++ Fields.inline fields
    .message logger.name level whole none

/-- A stretch of work that is profiled under a name. -/
structure Span where
  logger : Logger
  name : String
  component? : Option String := none
  metadata : Fields := []

namespace Span

/-- The calls when a span is entered. -/
def opening (span : Span) : List Call :=
  span.metadata.map (fun (key, value) => .addContext span.logger.name key value)
    ++ span.component?.toList.map (.track span.logger.name)
    ++ [.profile span.logger.name span.name]

/-- The calls when a span is left. -/
def closing (span : Span) : List Call :=
  span.metadata.map (fun (key, _) => .removeContext span.logger.name key)
    ++ [.endProfile span.logger.name span.name]
    ++ span.component?.toList.map (.endTrack span.logger.name)

/-- The call that reports the failure of a span, whose metadata may have grown. -/
def failure (span : Span) (metadata : Fields) (reason : String) : Call :=
  let named := metadata.foldl (fun fields (key, value) => Fields.assign fields key value)
    [("span", span.name)]
  let tracked := match span.component? with
    | some component => Fields.assign named "component" component
    | none => named
  span.logger.log .error "span::fail" (Fields.assign tracked "reason" reason)

/-- The calls when a fault leaves a span: one that is not routine is reported first. -/
def closingWith (span : Span) (metadata : Fields) (fault? : Option Fault) : List Call :=
  match fault? with
  | some fault =>
    (if fault.isRoutine then [] else [span.failure metadata fault.reason]) ++ span.closing
  | none => span.closing

end Span

end LineEditor.Telemetry

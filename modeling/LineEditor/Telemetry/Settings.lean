import LineEditor.Telemetry.Call
import LineEditor.Environment

/-!
# Log settings

What can be set about the log, where the settings come from, and the options
that a configuration gets from them.
-/

set_option autoImplicit false

namespace LineEditor.Telemetry

open LineEditor.Text

/-- What can be set about the log. -/
structure Settings where
  level : String := "INFO"
  console : Bool := true
  colored : Bool := true
  structured : Bool := false
  logFile : String := ""
  buffered : Bool := false
  bufferSize : Int := 2048
  deriving DecidableEq

namespace Settings

/-- The settings that environment variables give. -/
def ofEnvironment (environment : Environment) : Except Fault Settings := do
  let sizeText := (environment.value? "LOG_BUFFER_SIZE").getD "2048"
  let bufferSize ← match readInteger sizeText with
    | .ok size => pure size
    | .error fault => throw (.ofNumeral sizeText fault)
  return {
    level := upperText ((environment.value? "LOG_LEVEL").getD "INFO")
    console := !environment.isSet "DISABLE_CONSOLE"
    colored := !environment.isSet "NO_COLOR"
    structured := environment.isSet "LOG_JSON"
    logFile := (environment.value? "LOG_FILE").getD ""
    buffered := environment.isSet "LOG_BUFFERED"
    bufferSize }

/-- The options of a configuration with these settings, in order; profiling is always on, as spans
rely on it. -/
def options (settings : Settings) : List (String × Datum) :=
  [("with_min_level", .text settings.level), ("with_console_output", .boolean settings.console)]
    ++ (if settings.console then [("with_colored_output", .boolean settings.colored)] else [])
    ++ (if settings.structured then [("with_json_format", .boolean true)] else [])
    ++ (if settings.logFile != "" then [("with_file_output", .text settings.logFile)] else [])
    ++ (if settings.buffered then
        [("with_buffering", .boolean true), ("with_buffer_size", .integer settings.bufferSize)]
      else [])
    ++ [("with_profiling", .boolean true)]

/-- The settings that a preset stands for. -/
def ofPreset (environment : Environment) (name : String) : Except Fault Settings :=
  let word := lowerPlainText name
  if word == "development" then .ok { level := "DEBUG" }
  else if word == "production" then
    .ok { console := false, buffered := true
          logFile := (environment.value? "LOG_FILE").getD "ed_engine.log" }
  else if word == "quiet" then .ok { level := "ERROR", console := false }
  else .error (.unknownPreset name)

end Settings

end LineEditor.Telemetry

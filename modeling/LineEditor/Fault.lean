import LineEditor.Refusal
import LineEditor.Pattern.Token
import LineEditor.Text.Numeral
import LineEditor.Text.Quoted

/-!
# Faults

Everything that can go wrong.  A fault is either a refusal, which the editor
answers with a question mark, or something unforeseen, which ends the command
and is handed to the host (`Fault.isRoutine`).

`Fault.message` puts each cause into words.
-/

set_option autoImplicit false

namespace LineEditor

open LineEditor.Text

/-- Why a line number or a file cannot be used with a buffer. -/
inductive BufferCause where
  | lineOutOfRange
  | endBeforeStart
  | currentOutOfRange
  | noPath
  deriving DecidableEq

/-- Why the file system refuses a path. -/
inductive PathCause where
  | missing
  | isDirectory
  | notDirectory
  | nameTooLong
  | denied
  | other (words : String)
  deriving DecidableEq

/-- What went wrong.  That a call to the outside does not come back is no answer of the program's;
`neverReturns` stands where there is none. -/
inductive Fault where
  | refusal (refusal : Refusal)
  | buffer (cause : BufferCause)
  | path (cause : PathCause) (name : String)
  | unknownCodec (name : String)
  | undecodable
  | unencodable
  | noSuchLine
  | invalidPattern
  | repeatTooLarge
  | incompatibleFlags
  | nestedTooDeep
  | tooManyDigits (count : Nat)
  | embeddedNul
  | nulInCodecName
  | neverReturns
  | timeoutNotANumber
  | timeoutTooLarge
  | notReal (text : String)
  | notInteger (text : String)
  | unknownMode (name : String)
  | unknownArity (name : String)
  | modeTaken (name : String)
  | modeMissing (name : String)
  | noActiveMode (name : String)
  | modeWithoutInput (className : String)
  | noRegistry
  | letterNotSingle
  | handlerNotCallable
  | commandConflict (letter : Char) (handler : String)
  | unknownPreset (name : String)
  | severalSources
  | unknownLevel (name : String)
  | crash (text : String)
  deriving DecidableEq

/-- The words for a misuse of a buffer. -/
def BufferCause.message : BufferCause → String
  | .lineOutOfRange => "Line out of range"
  | .endBeforeStart => "Range end precedes start"
  | .currentOutOfRange => "Current line out of range"
  | .noPath => "Buffer has no file path"

/-- The number and the words for a path that is refused. -/
def PathCause.message : PathCause → String
  | .missing => "[Errno 2] No such file or directory"
  | .notDirectory => "[Errno 20] Not a directory"
  | .isDirectory => "[Errno 21] Is a directory"
  | .nameTooLong => "[Errno 36] File name too long"
  | .denied => "[Errno 13] Permission denied"
  | .other words => words

namespace Fault

/-- Whether the editor answers the fault by itself. -/
def isRoutine : Fault → Bool
  | .refusal _ => true
  | _ => false

/-- The words for a fault. -/
def message : Fault → String
  | .refusal cause => cause.message
  | .buffer cause => cause.message
  | .path cause name => cause.message ++ ": " ++ quote name
  | .unknownCodec name => "unknown encoding: " ++ name
  | .undecodable => "the bytes are no text in this encoding"
  | .unencodable => "the encoding has not all characters of the text"
  | .noSuchLine => "list index out of range"
  | .invalidPattern => "invalid pattern"
  | .repeatTooLarge => "the repetition number is too large"
  | .incompatibleFlags => "ASCII and UNICODE flags are incompatible"
  | .tooManyDigits count =>
    "Exceeds the limit (" ++ toString digitLimit ++ " digits) for integer string conversion: value has "
      ++ toString count ++ " digits; use sys.set_int_max_str_digits() to increase the limit"
  | .nestedTooDeep => "maximum recursion depth exceeded"
  | .embeddedNul => "embedded null byte"
  | .nulInCodecName => "embedded null character"
  | .neverReturns => "a call to the outside does not come back"
  | .timeoutNotANumber => "cannot convert float NaN to integer"
  | .timeoutTooLarge => "timeout is too large"
  | .notReal text => "could not convert string to float: " ++ quote text
  | .notInteger text =>
    "invalid literal for int() with base 10: " ++ ((quote text).take 200).toString
  | .unknownMode name => quote name ++ " is not a valid SessionMode"
  | .unknownArity name => quote name ++ " is not a valid AddressArity"
  | .modeTaken name => "Mode '" ++ name ++ "' already registered"
  | .modeMissing name => "Mode '" ++ name ++ "' is not registered"
  | .noActiveMode name => "No mode registered for '" ++ name ++ "'"
  | .modeWithoutInput className => className ++ " does not accept lines"
  | .noRegistry => "ModeContext.extras missing 'command_registry'"
  | .letterNotSingle => "command letter must be a single character"
  | .handlerNotCallable => "handler must be callable"
  | .commandConflict letter handler =>
    "Command '" ++ letter.toString ++ "' is already bound to " ++ handler
  | .unknownPreset name => "Unknown preset '" ++ name ++ "'."
  | .severalSources => "Provide only one of `settings`, `config` or `preset`."
  | .unknownLevel name => "Unsupported log level '" ++ name ++ "'."
  | .crash text => text

/-- The reason that a log gives for a fault: its message, quoted where a missing key is named. -/
def reason (fault : Fault) : String :=
  match fault with
  | .modeMissing _ => quote fault.message
  | _ => fault.message

/-- The fault of a numeral that is known to consist of digits. -/
def ofNumeral (text : String) : NumeralFault → Fault
  | .tooManyDigits count => .tooManyDigits count
  | .malformed => .notInteger text

/-- The fault of a text that is no pattern. -/
def ofPattern : Pattern.PatternFault → Fault
  | .malformed => .invalidPattern
  | .repeatTooLarge => .repeatTooLarge
  | .tooManyDigits count => .tooManyDigits count
  | .incompatibleFlags => .incompatibleFlags
  | .nestedTooDeep => .nestedTooDeep

end Fault

end LineEditor

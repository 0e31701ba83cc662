import LineEditor.Config
import LineEditor.Disk

/-!
# Asking the shell

The editor hands a command to the shell that is configured, or to the standard
one, and shows the lines that it has written, those of the standard output
first.  What the shell makes of a command is its own affair: it may write, change
files, take too long or not come back at all.  A `Shell` is therefore what
answers requests.  Two things are certain: what the outside cannot be told is
not asked for, and nobody gives up on a time limit that can be waited for
(`Shell.waits`).
-/

set_option autoImplicit false

namespace LineEditor

namespace Shell

/-- The line that ends the output of a shell command. -/
def marker : String := "!"

/-- What is asked of the shell: the program that takes the command, the command, and the time there
is for it. -/
structure Request where
  program : String
  command : String
  limit? : Option Decimal.Real64
  deriving DecidableEq

/-- Why nobody can wait as long as a time limit says. -/
inductive LimitFault where
  | notANumber
  | tooLarge
  deriving DecidableEq

/-- Whether a time limit has a fault. -/
def LimitFault.Concerns : LimitFault → Option Decimal.Real64 → Prop
  | .notANumber, limit? => limit? = some .notANumber
  | .tooLarge, limit? => ∃ limit, limit? = some limit ∧ limit.lessThan 2147483648 1000 = false

/-- How a request ends, if it does.  A command that has finished has written to the two outputs. -/
inductive Outcome where
  | finished (output errors : String)
  | expired
  | notStarted
  | unwaitable (fault : LimitFault)
  | endless
  deriving DecidableEq

/-- How a request ends, and the disk afterwards. -/
structure Answer where
  outcome : Outcome
  disk : Disk

/-- The lines to show. -/
def Outcome.lines : Outcome → Except Fault (List String)
  | .finished output errors =>
    .ok (Text.splitLines output ++ Text.splitLines errors ++ [marker])
  | .expired => .error (.refusal (.inputOutput .shellTimedOut))
  | .notStarted => .error (.refusal (.inputOutput .cannotRunShell))
  | .unwaitable .notANumber => .error .timeoutNotANumber
  | .unwaitable .tooLarge => .error .timeoutTooLarge
  | .endless => .error .neverReturns

end Shell

/-- What answers requests, and the texts that it can be told. -/
structure Shell where
  tells : String → Bool
  answer : Shell.Request → Disk → Shell.Answer
  waits : ∀ (request : Shell.Request) (disk : Disk) (fault : Shell.LimitFault),
    (answer request disk).outcome = .unwaitable fault → fault.Concerns request.limit?

namespace Shell

/-- What is asked for a command. -/
def requestFor (config : Config) (command : String) : Request where
  program := config.shell?.getD "/bin/sh"
  command
  limit? := config.shellTimeout?

/-- Has the shell execute a command: the lines to show, and the disk afterwards. -/
def execute (shell : Shell) (config : Config) (disk : Disk) (command : String) :
    Except Fault (List String) × Disk :=
  let request := requestFor config command
  if !(shell.tells request.program && shell.tells request.command) then
    (.error .unencodable, disk)
  else if Disk.hasNul request.program || Disk.hasNul request.command then
    (.error .embeddedNul, disk)
  else
    let answer := shell.answer request disk
    (answer.outcome.lines, answer.disk)

end Shell

end LineEditor

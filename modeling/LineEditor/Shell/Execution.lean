import LineEditor.Shell.Machine
import LineEditor.Shell.Request

/-!
# A shell

The shell that an editor uses unless it is given another: it knows a few
programs, the first of which runs scripts (`Shell.run`), and it takes no time.  A
time limit that is too short for a command to start has passed before it can
end.
-/

set_option autoImplicit false

namespace LineEditor.Shell

open LineEditor.Text

/-- A program that can take a command. -/
inductive Program where
  | shell
  | echo
  | succeed
  | fail
  deriving DecidableEq

/-- The program at a path, if there is one. -/
def Program.find? (path : String) : Option Program :=
  let directories := ["/bin/", "/usr/bin/", ""]
  let among (names : List String) :=
    directories.any fun directory => names.any fun name => path == directory ++ name
  if among ["sh", "dash", "bash"] then some .shell
  else if among ["echo"] then some .echo
  else if among ["true"] then some .succeed
  else if among ["false"] then some .fail
  else none

/-- What a program makes of a command. -/
def Program.run (program : Program) (disk : Disk) (command : String) : Completed :=
  match program with
  | .shell => Shell.run disk command
  | .echo => { output := bytesOf ("-c " ++ command ++ "\n").toList, errors := [], disk }
  | .succeed | .fail => { output := [], errors := [], disk }

/-- The text that a program has written. -/
def textOf (bytes : List UInt8) : String :=
  String.ofList (normaliseFeeds (decodeLossy ⟨bytes.toArray⟩).toList)

/-- How a request ends because of its time limit. -/
def limitOutcome? (limit? : Option Decimal.Real64) : Option Outcome :=
  match limit? with
  | none => none
  | some .notANumber => some (.unwaitable .notANumber)
  | some limit =>
    if limit.lessThan 1 1000 then some .expired
    else if limit.lessThan 2147483648 1000 then none
    else some (.unwaitable .tooLarge)

/-- The answer of the standard shell. -/
def standardAnswer (request : Request) (disk : Disk) : Answer :=
  match Program.find? request.program, limitOutcome? request.limit? with
  | none, _ => ⟨.notStarted, disk⟩
  | some _, some outcome => ⟨outcome, disk⟩
  | some program, none =>
    let completed := program.run disk request.command
    ⟨.finished (textOf completed.output) (textOf completed.errors), completed.disk⟩

/-- The standard shell gives up on a time limit only if it has a fault. -/
theorem limitOutcome?_waits {limit? : Option Decimal.Real64} {fault : LimitFault}
    (gaveUp : limitOutcome? limit? = some (.unwaitable fault)) : fault.Concerns limit? := by
  unfold limitOutcome? at gaveUp
  split at gaveUp
  · cases gaveUp
  · cases gaveUp
    rfl
  · split at gaveUp
    · cases gaveUp
    · split at gaveUp
      · cases gaveUp
      · rename_i limit _ _ long
        cases gaveUp
        exact ⟨limit, rfl, by simpa using long⟩

/-- The standard shell. -/
def standard : Shell where
  tells _ := true
  answer := standardAnswer
  waits request disk fault gaveUp := by
    unfold standardAnswer at gaveUp
    split at gaveUp
    · cases gaveUp
    · rename_i limited
      exact limitOutcome?_waits (limited.trans (congrArg some gaveUp))
    · cases gaveUp

end LineEditor.Shell

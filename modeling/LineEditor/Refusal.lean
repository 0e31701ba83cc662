/-!
# Refusals

A refusal is the routine failure of a command: the address it was given does not
resolve, an argument is not acceptable, a file cannot be used.  The editor
answers it with a question mark and goes on.

Every cause is a value of `Refusal`.  `Refusal.kind` sorts the causes into the
six kinds that a host can tell apart, and `Refusal.message` is the one place
where they are put into words.
-/

set_option autoImplicit false

namespace LineEditor

/-- The kinds of refusals that a host can tell apart. -/
inductive RefusalKind where
  | general
  | range
  | address
  | argument
  | unsavedChanges
  | inputOutput
  deriving DecidableEq

/-- The message of a kind where nothing more precise is said. -/
def RefusalKind.defaultMessage : RefusalKind → String
  | .general | .range => "Undefined error"
  | .address => "invalid address"
  | .argument => "invalid command suffix"
  | .unsavedChanges => "buffer modified"
  | .inputOutput => "cannot open file"

/-- Why an address does not resolve. -/
inductive AddressCause where
  | noPreviousPattern
  | invalidPattern
  | noMatch
  | invalidMark
  | undefinedMark
  | malformed (token : String)
  | invalidDestination
  deriving DecidableEq

/-- Why a command does not accept its arguments or addresses. -/
inductive ArgumentCause where
  | unknownCommand
  | unexpectedAddress
  | invalidMarkName
  | noPreviousSubstitution
  | invalidDelimiter
  | invalidSuffix
  | noPreviousPattern
  | invalidPattern
  | invalidReplacement
  | noShellCommand
  | invalidFileName
  deriving DecidableEq

/-- Why a file or a shell command cannot be used. -/
inductive FileCause where
  | cannotOpen
  | cannotWrite
  | noFileName
  | cannotRunShell
  | shellTimedOut
  deriving DecidableEq

/-- The routine failure of a command.  A `declared` one is raised by a scripted command, which may
leave the message to its kind. -/
inductive Refusal where
  | outOfRange
  | address (cause : AddressCause)
  | argument (cause : ArgumentCause)
  | unsavedChanges
  | inputOutput (cause : FileCause)
  | nothingToUndo
  | declared (kind : RefusalKind) (message? : Option String)
  deriving DecidableEq

/-- The words for an address that does not resolve. -/
def AddressCause.message : AddressCause → String
  | .noPreviousPattern => "no previous pattern"
  | .invalidPattern => "invalid pattern"
  | .noMatch => "no match"
  | .invalidMark => "invalid mark character"
  | .undefinedMark => "undefined mark"
  | .malformed token => "invalid address '" ++ token ++ "'"
  | .invalidDestination => "invalid destination"

/-- The words for arguments that are not accepted. -/
def ArgumentCause.message : ArgumentCause → String
  | .unknownCommand => "unknown command"
  | .unexpectedAddress => "unexpected address"
  | .invalidMarkName => "Undefined error"
  | .noPreviousSubstitution => "no previous substitution"
  | .invalidDelimiter => "invalid pattern delimiter"
  | .invalidSuffix => "invalid command suffix"
  | .noPreviousPattern => "no previous pattern"
  | .invalidPattern => "invalid pattern"
  | .invalidReplacement => "invalid replacement"
  | .noShellCommand => "no command given"
  | .invalidFileName => "invalid filename"

/-- The words for a file or shell command that cannot be used. -/
def FileCause.message : FileCause → String
  | .cannotOpen => "cannot open file"
  | .cannotWrite => "cannot write file"
  | .noFileName => "no current filename"
  | .cannotRunShell => "cannot run shell command"
  | .shellTimedOut => "shell command timed out"

namespace Refusal

/-- The kind of a refusal. -/
def kind : Refusal → RefusalKind
  | .outOfRange => .range
  | .address _ => .address
  | .argument _ => .argument
  | .unsavedChanges => .unsavedChanges
  | .inputOutput _ => .inputOutput
  | .nothingToUndo => .general
  | .declared kind _ => kind

/-- The words for a refusal; an empty declared message counts as none. -/
def message : Refusal → String
  | .outOfRange => RefusalKind.range.defaultMessage
  | .address cause => cause.message
  | .argument cause => cause.message
  | .unsavedChanges => RefusalKind.unsavedChanges.defaultMessage
  | .inputOutput cause => cause.message
  | .nothingToUndo => "nothing to undo"
  | .declared kind none => kind.defaultMessage
  | .declared kind (some text) => if text.isEmpty then kind.defaultMessage else text

end Refusal

end LineEditor

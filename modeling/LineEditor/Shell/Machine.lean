import LineEditor.Disk
import LineEditor.Shell.Format
import LineEditor.Shell.Script

/-!
# Running shell commands

The machine that runs a script: the disk, what stands on standard input, the
buffers into which output goes, variables, and the status of the last command.
A pipe is run from left to right, the output of its left side becoming the input
of its right one; the sides of a pipe, groups in parentheses and commands whose
output is substituted leave no variables behind.

Of a device the machine knows only that what is written to it is gone.

Only the commands that write, copy or end are known (`echo`, `printf`, `cat`,
`true`, `false`, `:`, `exit`); any other name is reported as not found.
-/

set_option autoImplicit false

namespace LineEditor.Shell

/-- Where output goes. -/
inductive Sink where
  | buffer (index : Nat)
  | file (place : List String)
  | nowhere
  deriving DecidableEq

/-- Where the two outputs of a command go. -/
structure Sinks where
  output : Sink := .buffer 0
  errors : Sink := .buffer 1
  deriving DecidableEq

/-- The state of the shell. -/
structure Machine where
  disk : Disk
  input : List UInt8 := []
  buffers : List (List UInt8) := [[], []]
  bindings : List (String × String) := []
  status : Nat := 0
  ended : Bool := false

namespace Machine

/-- Sends bytes to a sink. -/
def send (machine : Machine) (sink : Sink) (bytes : List UInt8) : Machine :=
  match sink with
  | .nowhere => machine
  | .buffer index => { machine with buffers := machine.buffers.modify index (· ++ bytes) }
  | .file place =>
    let before := (machine.disk.file? place).getD .empty
    { machine with disk := machine.disk.put place (before ++ ⟨bytes.toArray⟩) }

/-- Reports a complaint of the shell itself. -/
def complain (machine : Machine) (sinks : Sinks) (text : String) : Machine :=
  machine.send sinks.errors (bytesOf ("/bin/sh: 1: " ++ text ++ "\n").toList)

/-- Sets the status of the last command. -/
def finish (machine : Machine) (status : Nat) : Machine :=
  { machine with status }

/-- Runs a part with an input of its own. -/
def withInput (machine : Machine) (input : List UInt8) (run : Machine → Machine) : Machine :=
  { run { machine with input } with input := machine.input }

/-- Runs a part that keeps only what it does to the disk, the buffers, the input and the status. -/
def apart (machine : Machine) (run : Machine → Machine) : Machine :=
  { run machine with bindings := machine.bindings, ended := machine.ended }

/-- Runs a part whose output is collected. -/
def collect (machine : Machine) (run : Sink → Machine → Machine) : List UInt8 × Machine :=
  let index := machine.buffers.length
  let after := run (.buffer index) { machine with buffers := machine.buffers ++ [[]] }
  (after.buffers.getD index [], { after with buffers := after.buffers.take index })

/-- The value of a parameter. -/
def parameter (machine : Machine) (name : String) : String :=
  if name == "?" then toString machine.status
  else if name == "#" then "0"
  else if name == "0" then "/bin/sh"
  else (machine.bindings.lookup name).getD ""

end Machine

/-! ## Words -/

/-- Bytes as the text of a substitution: without the line feeds at its end. -/
def substituted (bytes : List UInt8) : String :=
  Text.decodeLossy ⟨((bytes.filter (· != 0)).reverse.dropWhile (· == 10)).reverse.toArray⟩

/-- A character of an expanded word, and whether it was quoted. -/
abbrev Glyph := Char × Bool

/-- A word being split into fields: the finished fields, and the current one if there is one. -/
structure Splitting where
  finished : List (List Glyph) := []
  current? : Option (List Glyph) := none

/-- Adds characters to the current field. -/
def Splitting.push (state : Splitting) (glyphs : List Glyph) : Splitting :=
  { state with current? := some (state.current?.getD [] ++ glyphs) }

/-- Ends the current field. -/
def Splitting.cut (state : Splitting) : Splitting :=
  match state.current? with
  | some field => { finished := state.finished ++ [field] }
  | none => state

/-- Adds an expanded text; unless it is quoted, white space in it separates fields. -/
def Splitting.expand (state : Splitting) (quoted : Bool) (text : String) : Splitting :=
  if quoted then state.push (text.toList.map (·, true))
  else text.toList.foldl (fun state char =>
    if " \t\n".toList.contains char then state.cut else state.push [(char, false)]) state

/-- Whether a name matches a pattern in which an unquoted star stands for any characters and an
unquoted question mark for one. -/
def globs : List Glyph → List Char → Bool
  | [], name => name.isEmpty
  | ('*', false) :: rest, [] => globs rest []
  | ('*', false) :: rest, char :: name =>
    globs rest (char :: name) || globs (('*', false) :: rest) name
  | ('?', false) :: _, [] => false
  | ('?', false) :: rest, _ :: name => globs rest name
  | (_, _) :: _, [] => false
  | (char, _) :: rest, other :: name => char == other && globs rest name
termination_by pattern name => pattern.length + name.length

/-- The names in the working directory that a field stands for, or the field itself. -/
def fileNames (disk : Disk) (field : List Glyph) : List String :=
  let literal := String.ofList (field.map (·.1))
  if field.any fun (char, quoted) => !quoted && (char == '*' || char == '?') then
    let places := (disk.files.map (·.1) ++ disk.directories).filter (·.length == 1)
    let names := (places.filter Disk.isBelow).flatten.eraseDups
    let hidden := literal.startsWith "."
    let matching := names.filter fun name =>
      globs field name.toList && (hidden || !name.startsWith ".")
    if matching.isEmpty then [literal] else matching.mergeSort
  else [literal]

/-- A way to run the source of a substituted command and collect its output. -/
abbrev Substitute := String → Machine → List UInt8 × Machine

/-- Expands the parts of a word. -/
def expandParts (substitute : Substitute) : Word → Splitting → Machine → Splitting × Machine
  | [], state, machine => (state, machine)
  | .char char quoted :: rest, state, machine =>
    expandParts substitute rest (state.push [(char, quoted)]) machine
  | .emptyQuotes :: rest, state, machine => expandParts substitute rest (state.push []) machine
  | .parameter name quoted :: rest, state, machine =>
    expandParts substitute rest (state.expand quoted (machine.parameter name)) machine
  | .output source quoted :: rest, state, machine =>
    let (bytes, machine) := substitute source machine
    expandParts substitute rest (state.expand quoted (substituted bytes)) machine

/-- The arguments that words expand to. -/
def expandWords (substitute : Substitute) : List Word → Machine → List String × Machine
  | [], machine => ([], machine)
  | word :: rest, machine =>
    let (state, machine) := expandParts substitute word {} machine
    let fields := state.cut.finished.flatMap (fileNames machine.disk)
    let (others, machine) := expandWords substitute rest machine
    (fields ++ others, machine)

/-- The single text that a word expands to where fields do not matter. -/
def expandText (substitute : Substitute) (word : Word) (machine : Machine) : String × Machine :=
  let (state, machine) := expandParts substitute word {} machine
  (" ".intercalate (state.cut.finished.map fun field => String.ofList (field.map (·.1))), machine)

/-- The name and the value of a word that sets a variable. -/
def assignment? (word : Word) : Option (String × Word) :=
  let name := word.takeWhile fun part => match part with
    | .char char false => isNamePart char
    | _ => false
  match word.drop name.length with
  | .char '=' false :: value =>
    match plainWord? name with
    | some text => if text.toList.head?.any isNameStart then some (text, value) else none
    | none => none
  | _ => none

/-! ## Redirections -/

/-- A machine whose outputs have been redirected, or the complaint about it. -/
abbrev Redirected := Except String (Sinks × Machine)

/-- Sends a descriptor elsewhere. -/
def Sinks.set (sinks : Sinks) (descriptor : Nat) (sink : Sink) : Sinks :=
  if descriptor = 1 then { sinks with output := sink }
  else if descriptor = 2 then { sinks with errors := sink }
  else sinks

/-- Opens a file for output. -/
def openOutput (machine : Machine) (sinks : Sinks) (descriptor : Nat) (keep : Bool)
    (target : String) : Redirected :=
  match machine.disk.locate target with
  | .device _ => .ok (sinks.set descriptor .nowhere, machine)
  | .file place bytes =>
    let machine := if keep then machine
      else { machine with disk := machine.disk.put place (if keep then bytes else .empty) }
    .ok (sinks.set descriptor (.file place), machine)
  | .vacant place none =>
    .ok (sinks.set descriptor (.file place), { machine with disk := machine.disk.put place .empty })
  | .directory => .error ("cannot create " ++ target ++ ": Is a directory")
  | .vacant _ (some _) => .error ("cannot create " ++ target ++ ": Permission denied")
  | .nowhere .missing => .error ("cannot create " ++ target ++ ": Directory nonexistent")
  | .nowhere .notDirectory => .error ("cannot create " ++ target ++ ": Not a directory")
  | .nowhere _ => .error ("cannot create " ++ target ++ ": File name too long")

/-- Opens a file for input. -/
def openInput (machine : Machine) (sinks : Sinks) (descriptor : Nat) (target : String) :
    Redirected :=
  match machine.disk.read target with
  | .ok bytes =>
    .ok (sinks, if descriptor = 0 then { machine with input := bytes.data.toList } else machine)
  | .error _ =>
    match machine.disk.locate target with
    | .directory => .ok (sinks, if descriptor = 0 then { machine with input := [] } else machine)
    | _ => .error ("cannot open " ++ target ++ ": No such file")

/-- Makes one descriptor a copy of another. -/
def duplicate (machine : Machine) (sinks : Sinks) (descriptor : Nat) (target : String) :
    Redirected :=
  if target == "1" then .ok (sinks.set descriptor sinks.output, machine)
  else if target == "2" then .ok (sinks.set descriptor sinks.errors, machine)
  else if target == "-" then .ok (sinks.set descriptor .nowhere, machine)
  else if target == "0" then .ok (sinks, machine)
  else if target.toList.all Char.isDigit then .error (target ++ ": Bad file descriptor")
  else .error "Bad fd number"

/-- Makes redirections in order. -/
def redirectAll (substitute : Substitute) : List Redirect → Sinks → Machine → Redirected
  | [], sinks, machine => .ok (sinks, machine)
  | redirect :: rest, sinks, machine => do
    let (target, machine) := expandText substitute redirect.target machine
    let (sinks, machine) ←
      if redirect.operator == "<" then openInput machine sinks redirect.descriptor target
      else if redirect.operator == ">&" || redirect.operator == "<&" then
        duplicate machine sinks redirect.descriptor target
      else
        let keep := redirect.operator == ">>" || redirect.operator == "<>"
        openOutput machine sinks redirect.descriptor keep target
    redirectAll substitute rest sinks machine

/-! ## Commands -/

/-- Copies files, or the input, to the output. -/
def runCat (sinks : Sinks) : List String → Machine → Machine
  | [], machine => machine
  | name :: rest, machine =>
    let after :=
      if name == "-" then { machine.send sinks.output machine.input with input := [] }
      else match machine.disk.read name with
        | .ok bytes => machine.send sinks.output bytes.data.toList
        | .error fault =>
          let reason := match fault with
            | .path .isDirectory _ => "Is a directory"
            | .path .notDirectory _ => "Not a directory"
            | .path .nameTooLong _ => "File name too long"
            | _ => "No such file or directory"
          let complaint := "cat: " ++ name ++ ": " ++ reason ++ "\n"
          (machine.send sinks.errors (bytesOf complaint.toList)).finish 1
    runCat sinks rest after

/-- Runs `printf`, whose complaints come before its output. -/
def runPrintf (sinks : Sinks) (arguments : List String) (machine : Machine) : Machine :=
  match arguments with
  | [] => (machine.complain sinks "printf: usage: printf format [arg ...]").finish 2
  | format :: rest =>
    let result := formatted format rest
    let told := result.complaints.foldl
      (fun machine text => machine.complain sinks ("printf: " ++ text)) machine
    let status := if result.complaints.isEmpty then 0 else if result.stopped then 2 else 1
    (told.send sinks.output result.bytes).finish status

/-- Ends the shell. -/
def runExit (sinks : Sinks) (arguments : List String) (machine : Machine) : Machine :=
  match arguments with
  | [] => { machine with ended := true }
  | text :: _ =>
    match text.toNat? with
    | some status => { machine with ended := true, status := status % 256 }
    | none =>
      { (machine.complain sinks ("exit: Illegal number: " ++ text)).finish 2 with ended := true }

/-- Runs a command by name. -/
def runNamed (sinks : Sinks) (name : String) (arguments : List String) (machine : Machine) :
    Machine :=
  match name with
  | "echo" => (machine.send sinks.output (echoed arguments)).finish 0
  | "printf" => runPrintf sinks arguments machine
  | "cat" => runCat sinks (if arguments.isEmpty then ["-"] else arguments) (machine.finish 0)
  | "true" | ":" => machine.finish 0
  | "false" => machine.finish 1
  | "exit" => runExit sinks arguments machine
  | _ => (machine.complain sinks (name ++ ": not found")).finish 127

/-- Sets variables. -/
def assignAll (substitute : Substitute) : List (String × Word) → Machine → Machine
  | [], machine => machine
  | (name, value) :: rest, machine =>
    let (text, machine) := expandText substitute value machine
    assignAll substitute rest { machine with bindings := (name, text) :: machine.bindings }

/-- Runs a simple command: leading assignments, then a name and arguments. -/
def runSimple (substitute : Substitute) (words : List Word) (redirects : List Redirect)
    (sinks : Sinks) (machine : Machine) : Machine :=
  let assignments := (words.takeWhile fun word => (assignment? word).isSome).filterMap assignment?
  let (arguments, machine) := expandWords substitute (words.drop assignments.length) machine
  let before := machine.input
  match redirectAll substitute redirects sinks machine with
  | .error text => { (machine.complain sinks text).finish 2 with input := before }
  | .ok (inner, machine) =>
    let after := match arguments with
      | [] => (assignAll substitute assignments machine).finish 0
      | name :: rest => runNamed inner name rest machine
    if redirects.any (·.operator == "<") then { after with input := before } else after

/-- Runs a script, unless the shell has ended. -/
def Script.run (substitute : Substitute) : Script → Sinks → Machine → Machine
  | .simple words redirects, sinks, machine =>
    if machine.ended then machine else runSimple substitute words redirects sinks machine
  | .pipe left right, sinks, machine =>
    if machine.ended then machine
    else
      let (bytes, machine) := machine.collect fun sink inner =>
        inner.apart fun machine => left.run substitute { sinks with output := sink } machine
      machine.withInput bytes fun inner =>
        inner.apart fun machine => right.run substitute sinks machine
  | .negated body, sinks, machine =>
    if machine.ended then machine
    else
      let after := body.run substitute sinks machine
      if after.ended then after else after.finish (if after.status = 0 then 1 else 0)
  | .both first second, sinks, machine =>
    let after := first.run substitute sinks machine
    if after.status = 0 then second.run substitute sinks after else after
  | .eitherOf first second, sinks, machine =>
    let after := first.run substitute sinks machine
    if after.status = 0 then after else second.run substitute sinks after
  | .sequence first second, sinks, machine =>
    second.run substitute sinks (first.run substitute sinks machine)
  | .apart body redirects, sinks, machine =>
    if machine.ended then machine
    else match redirectAll substitute redirects sinks machine with
      | .error text => (machine.complain sinks text).finish 2
      | .ok (inner, redirected) =>
        let after := redirected.apart fun machine => body.run substitute inner machine
        if redirects.any (·.operator == "<") then { after with input := machine.input } else after
  | .grouped body redirects, sinks, machine =>
    if machine.ended then machine
    else match redirectAll substitute redirects sinks machine with
      | .error text => (machine.complain sinks text).finish 2
      | .ok (inner, redirected) =>
        let after := body.run substitute inner redirected
        if redirects.any (·.operator == "<") then { after with input := machine.input } else after

/-- Runs the source of a command.  The bound is on how deep substitutions are nested. -/
def runSource : Nat → String → Sinks → Machine → Machine
  | 0, _, _, machine => machine
  | bound + 1, source, sinks, machine =>
    match Script.read source with
    | .error fault => { (machine.complain sinks fault.message).finish 2 with ended := true }
    | .ok none => machine.finish 0
    | .ok (some script) =>
      let substitute : Substitute := fun inner machine =>
        machine.collect fun sink machine =>
          machine.apart fun machine => runSource bound inner { sinks with output := sink } machine
      script.run substitute sinks machine

/-- What a command has written, and the disk afterwards. -/
structure Completed where
  output : List UInt8
  errors : List UInt8
  disk : Disk

/-- Runs a command from the start. -/
def run (disk : Disk) (source : String) : Completed :=
  let machine := runSource (source.length + 1) source {} { disk }
  { output := machine.buffers.getD 0 [], errors := machine.buffers.getD 1 [], disk := machine.disk }

end LineEditor.Shell

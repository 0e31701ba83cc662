import LineEditor.Pattern.Replacement
import LineEditor.Session
import LineEditor.Text.Parts

/-!
# Substitutions

The arguments of the substitute command, and what a substitution does to the
lines of a range.

The arguments are a pattern and a replacement, each after a slash, and possibly
a third slash, with or without the letter that asks for all matches in a line.
Without arguments the last substitution is repeated, and an empty pattern stands
for the one searched for last (`Substitution.read`).
-/

set_option autoImplicit false

namespace LineEditor.Substitution

/-- Reads a pattern for a substitution. -/
def readPattern (engine : Pattern.Engine) (text : String) : Except Fault Pattern.Compiled :=
  match Pattern.read engine text with
  | .ok compiled => .ok compiled
  | .error .malformed => .error (.refusal (.argument .invalidPattern))
  | .error fault => .error (.ofPattern fault)

/-- The pattern, the replacement and the suffix that arguments are made of. -/
def fields (args : String) : Except Fault (List Char × List Char × List Char) :=
  match Text.splitAt '/' args.toList with
  | [[], pattern, replacement] => .ok (pattern, replacement, [])
  | [[], pattern, replacement, suffix] => .ok (pattern, replacement, suffix)
  | _ => .error (.refusal (.argument .invalidDelimiter))

/-- The pattern that is meant: an empty one stands for the one searched for last. -/
def effectivePattern (lastSearch? : Option String) (pattern : List Char) : Except Fault String :=
  if pattern.isEmpty then
    match lastSearch? with
    | some text => .ok text
    | none => .error (.refusal (.argument .noPreviousPattern))
  else .ok (String.ofList pattern)

/-- The substitution that non-empty arguments write. -/
def readFields (engine : Pattern.Engine) (args : String) (lastSearch? : Option String) :
    Except Fault Substitution := do
  let (pattern, replacement, suffix) ← fields args
  if suffix != [] && suffix != ['g'] then throw (.refusal (.argument .invalidSuffix))
  let text ← effectivePattern lastSearch? pattern
  let _ ← readPattern engine text
  return { pattern := text, replacement := String.ofList replacement, all := suffix == ['g'] }

/-- The substitution that arguments ask for. -/
def read (engine : Pattern.Engine) (args : String) (lastSubstitution? : Option Substitution)
    (lastSearch? : Option String) : Except Fault Substitution :=
  if args = "" then
    match lastSubstitution? with
    | some substitution => .ok substitution
    | none => .error (.refusal (.argument .noPreviousSubstitution))
  else readFields engine args lastSearch?

/-- The changed lines among some lines, with their numbers, of which the first is given. -/
def changes (replace : String → Except Pattern.PatternFault (String × Nat)) :
    Nat → List String → Except Fault (List (Nat × String))
  | _, [] => .ok []
  | number, line :: rest =>
    match replace line with
    | .error _ => .error (.refusal (.argument .invalidReplacement))
    | .ok (updated, hits) => do
      let others ← changes replace (number + 1) rest
      return if hits = 0 then others else (number, updated) :: others

end LineEditor.Substitution

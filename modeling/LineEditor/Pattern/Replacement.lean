import LineEditor.Pattern.Template

/-!
# Replacing matches

`Compiled.replace` replaces the first match in a line, or all of them, by what a
template stands for, and counts the replacements.

Matches are taken from left to right and never overlap.  An empty match counts,
also directly behind a match that is not empty, but not behind another empty one
at the same place.
-/

set_option autoImplicit false

namespace LineEditor.Pattern

/-- Replaces matches from a place on: at most `limit` of them, if there is a limit.  After an
empty match the next one at the same place must not be empty.  Gives the new text from that place
on and the number of replacements. -/
def replaceFrom (pattern : Pattern) (template : Template) (limit : Option Nat) :
    Nat → Bool → Cursor → List Char × Nat
  | 0, _, cursor => (cursor.after, 0)
  | bound + 1, mustAdvance, cursor =>
    if limit = some 0 then (cursor.after, 0)
    else
      match pattern.searchFrom mustAdvance cursor.offset cursor.before cursor.after with
      | none => (cursor.after, 0)
      | some found =>
        let isEmpty := found.start.offset == found.finish.offset
        let (rest, count) :=
          replaceFrom pattern template (limit.map (· - 1)) bound isEmpty found.finish
        (cursor.textTo found.start ++ template.fill found ++ rest, count + 1)

/-- Replaces matches in a line.  Two rounds per character and two more are always enough. -/
def replaceIn (pattern : Pattern) (template : Template) (limit : Option Nat) (line : String) :
    String × Nat :=
  let (chars, count) :=
    replaceFrom pattern template limit (2 * line.length + 2) false (.ofText line)
  (String.ofList chars, count)

/-- Replaces the first match in a line, or all, by a template that is given as text. -/
def Compiled.replace (compiled : Compiled) (template : String) (all : Bool) (line : String) :
    Except PatternFault (String × Nat) := do
  let pieces ← Template.read compiled template
  return replaceIn compiled.pattern pieces (if all then none else some 1) line

end LineEditor.Pattern

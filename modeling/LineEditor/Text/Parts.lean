/-!
# Parts of a text

Cutting a text at every occurrence of a separator.  There is always at least one
part, and no part holds the separator.
-/

set_option autoImplicit false

namespace LineEditor.Text

/-- The parts of a list of characters between separators. -/
def splitAt (separator : Char) : List Char → List (List Char)
  | [] => [[]]
  | char :: rest =>
    if char = separator then [] :: splitAt separator rest
    else match splitAt separator rest with
      | [] => [[char]]
      | part :: parts => (char :: part) :: parts

end LineEditor.Text

import LineEditor.Text.Parts

/-!
# File paths

A path is a text whose components are separated by slashes.  Empty components
and single points mean nothing, two points go up one directory.

`FilePath.normal` is the normal spelling of a path, in which nothing that means
nothing is left, and `FilePath.name` its last component.
-/

set_option autoImplicit false

namespace LineEditor.FilePath

/-- The components of a path that mean something. -/
def components (path : String) : List String :=
  ((Text.splitAt '/' path.toList).map String.ofList).filter fun part => part != "" && part != "."

/-- The leading slashes that the normal spelling keeps: two of exactly two, one of any other
number. -/
def root (path : String) : String :=
  match path.toList with
  | '/' :: '/' :: '/' :: _ => "/"
  | '/' :: '/' :: _ => "//"
  | '/' :: _ => "/"
  | _ => ""

/-- Whether a path starts from the root of the file system. -/
def isAbsolute (path : String) : Bool :=
  path.toList.head? == some '/'

/-- The normal spelling of a path. -/
def normal (path : String) : String :=
  let text := root path ++ "/".intercalate (components path)
  if text.isEmpty then "." else text

/-- The last component of a path, or nothing. -/
def name (path : String) : String :=
  (components path).getLast?.getD ""

end LineEditor.FilePath

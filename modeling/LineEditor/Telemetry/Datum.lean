import LineEditor.Decimal.Shortest
import LineEditor.Text.Quoted

/-!
# Logged values

The values that events and spans carry.  Every value has two written forms: its
plain text, in which a text stands as it is (`Datum.text`), and its quoted form,
in which texts are quoted (`Datum.quoted`).  The members of a list or an object
are always quoted, so the two forms differ for texts only.
-/

set_option autoImplicit false

namespace LineEditor.Telemetry

/-- A value that can be logged. -/
inductive Datum where
  | null
  | boolean (value : Bool)
  | integer (value : Int)
  | real (value : Decimal.Real64)
  | text (value : String)
  | list (members : List Datum)
  | object (fields : List (String × Datum))

namespace Datum

mutual

/-- The quoted form of a value. -/
def quoted : Datum → String
  | .null => "None"
  | .boolean value => if value then "True" else "False"
  | .integer value => toString value
  | .real value => value.text
  | .text value => Text.quote value
  | .list members => "[" ++ ", ".intercalate (quotedMembers members) ++ "]"
  | .object fields => "\x7b" ++ ", ".intercalate (quotedFields fields) ++ "\x7d"

/-- The quoted forms of the members of a list. -/
def quotedMembers : List Datum → List String
  | [] => []
  | member :: rest => member.quoted :: quotedMembers rest

/-- The quoted forms of the fields of an object. -/
def quotedFields : List (String × Datum) → List String
  | [] => []
  | (key, value) :: rest => (Text.quote key ++ ": " ++ value.quoted) :: quotedFields rest

end

/-- The plain text of a value. -/
def plain : Datum → String
  | .text value => value
  | value => value.quoted

end Datum

/-- The values that each belong to a key, in the order in which the keys were first given. -/
abbrev Fields := List (String × String)

/-- The fields with the value of a key replaced, or added at the end. -/
def Fields.assign (fields : Fields) (key value : String) : Fields :=
  if fields.any (·.1 == key) then
    fields.map fun field => if field.1 == key then (key, value) else field
  else fields ++ [(key, value)]

end LineEditor.Telemetry

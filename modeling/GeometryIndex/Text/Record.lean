/-!
# Descriptions of records

A record is described as `Name { field: value, … }`, an optional value as `Some(value)` or `None`.
-/

namespace GeometryIndex.Text

/-- The description of a record with at least one field. -/
def record (name : String) (fields : List (String × String)) : String :=
  let texts := fields.map fun field => field.1 ++ ": " ++ field.2
  name ++ " \x7b " ++ String.intercalate ", " texts ++ " \x7d"

/-- The description of an optional value. -/
def optional : Option String → String
  | none => "None"
  | some value => "Some(" ++ value ++ ")"

/-- The text of a truth value. -/
def truth (b : Bool) : String := if b then "true" else "false"

end GeometryIndex.Text

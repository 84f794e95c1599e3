import GeometryIndex.Number.Numeral

/-!
# JSON values

A JSON text keeps in its value what a reader of types may care about: the parts of a numeral, the
order of members, names that occur twice, and strings that cannot be decoded because half of a pair
of code units is missing.
-/

namespace GeometryIndex

inductive Json
  | null
  | bool (value : Bool)
  | number (numeral : Numeral)
  /-- A string; none if it has a code unit without its other half. -/
  | string (text : Option String)
  | array (items : List Json)
  | object (members : List (Option String × Json))

namespace Json

/-! ### Writing -/

/-- A character as it stands in a string: only the two with a meaning there and the control
characters are escaped. -/
def escape (c : Char) : String :=
  match c with
  | '"' => "\\\""
  | '\\' => "\\\\"
  | '\x08' => "\\b"
  | '\x0c' => "\\f"
  | '\n' => "\\n"
  | '\r' => "\\r"
  | '\t' => "\\t"
  | c =>
    if c.toNat < 32 then
      "\\u00" ++ String.ofList [Nat.digitChar (c.toNat / 16), Nat.digitChar (c.toNat % 16)]
    else String.singleton c

def writeString (s : String) : String := "\"" ++ String.join (s.toList.map escape) ++ "\""

def writeArray (items : List String) : String := "[" ++ String.intercalate "," items ++ "]"

/-- An object with the given names and written values, in this order. -/
def writeObject (members : List (String × String)) : String :=
  let texts := members.map fun member => writeString member.1 ++ ":" ++ member.2
  "\x7b" ++ String.intercalate "," texts ++ "\x7d"

end Json

end GeometryIndex

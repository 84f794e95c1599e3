import GeometryIndex.Text.Hidden

/-!
# Texts in quotes

A quoted text shows every character: the two that have a meaning between quotes are escaped, the
common control characters have short names, and other hidden ones are given by code point.
-/

namespace GeometryIndex.Text

/-- A character as it stands between quotes. -/
def escape (c : Char) : String :=
  match c with
  | '\x00' => "\\0"
  | '\t' => "\\t"
  | '\r' => "\\r"
  | '\n' => "\\n"
  | '"' => "\\\""
  | '\\' => "\\\\"
  | c =>
    if isHidden c then "\\u\x7b" ++ String.ofList (Nat.toDigits 16 c.toNat) ++ "\x7d"
    else String.singleton c

/-- A text between quotes. -/
def quoted (s : String) : String := "\"" ++ String.join (s.toList.map escape) ++ "\""

end GeometryIndex.Text

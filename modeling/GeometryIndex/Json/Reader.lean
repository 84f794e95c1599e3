import GeometryIndex.Json.Basic

/-!
# Reading JSON

Each reader takes its part from the front of the characters and gives what is left, or nothing if
the characters do not begin with such a part.  Values nest, so the readers of values, items and
members call each other; no chain of calls is longer than twice the text.
-/

namespace GeometryIndex.Json

/-- The characters after white space. -/
def skip (cs : List Char) : List Char :=
  cs.dropWhile fun c => c = ' ' || c = '\n' || c = '\t' || c = '\r'

def digitValue (c : Char) : Nat := c.toNat - '0'.toNat

/-- The digits at the front. -/
def readDigits (cs : List Char) : List Nat × List Char :=
  ((cs.takeWhile Char.isDigit).map digitValue, cs.dropWhile Char.isDigit)

/-- At least one digit. -/
def readDigits1? (cs : List Char) : Option (List Nat × List Char) :=
  match readDigits cs with
  | ([], _) => none
  | read => some read

/-- Digits of which the first is 0 only if it is the only one. -/
def readWhole? (cs : List Char) : Option (List Nat × List Char) :=
  match readDigits cs with
  | ([], _) => none
  | (0 :: _ :: _, _) => none
  | read => some read

/-- What follows a point, if there is one. -/
def readFraction? : List Char → Option (List Nat × List Char)
  | '.' :: cs => readDigits1? cs
  | cs => some ([], cs)

/-- An exponent after its letter. -/
def readSigned? : List Char → Option ((Bool × List Nat) × List Char)
  | '-' :: cs => (readDigits1? cs).map fun (digits, cs) => ((true, digits), cs)
  | '+' :: cs => (readDigits1? cs).map fun (digits, cs) => ((false, digits), cs)
  | cs => (readDigits1? cs).map fun (digits, cs) => ((false, digits), cs)

/-- The exponent, if there is one. -/
def readExponent? : List Char → Option (Option (Bool × List Nat) × List Char)
  | 'e' :: cs | 'E' :: cs => (readSigned? cs).map fun (exponent, cs) => (some exponent, cs)
  | cs => some (none, cs)

/-- A numeral after its sign. -/
def readUnsigned? (negative : Bool) (cs : List Char) : Option (Numeral × List Char) := do
  let (whole, cs) ← readWhole? cs
  let (fraction, cs) ← readFraction? cs
  let (exponent, cs) ← readExponent? cs
  return ({ negative, whole, fraction, exponent }, cs)

def readNumeral? : List Char → Option (Numeral × List Char)
  | '-' :: cs => readUnsigned? true cs
  | cs => readUnsigned? false cs

/-- A piece of a string: a character, or a code unit given by number. -/
inductive Piece
  | char (c : Char)
  | unit (n : Nat)

def hexValue? (c : Char) : Option Nat :=
  if '0' ≤ c ∧ c ≤ '9' then some (c.toNat - '0'.toNat)
  else if 'a' ≤ c ∧ c ≤ 'f' then some (c.toNat - 'a'.toNat + 10)
  else if 'A' ≤ c ∧ c ≤ 'F' then some (c.toNat - 'A'.toNat + 10)
  else none

/-- The character that a letter stands for after a backslash. -/
def escaped? : Char → Option Char
  | '"' => some '"'
  | '\\' => some '\\'
  | '/' => some '/'
  | 'b' => some '\x08'
  | 'f' => some '\x0c'
  | 'n' => some '\n'
  | 'r' => some '\r'
  | 't' => some '\t'
  | _ => none

/-- The pieces of a string after its opening quote, up to the closing one. -/
def readPieces? : List Char → Option (List Piece × List Char)
  | '"' :: cs => some ([], cs)
  | '\\' :: 'u' :: a :: b :: c :: d :: cs => do
    let digits ← [a, b, c, d].mapM hexValue?
    let (pieces, cs) ← readPieces? cs
    return (.unit (digits.foldl (fun n d => n * 16 + d) 0) :: pieces, cs)
  | '\\' :: c :: cs => do
    let c ← escaped? c
    let (pieces, cs) ← readPieces? cs
    return (.char c :: pieces, cs)
  | c :: cs =>
    if c.toNat < 32 then none
    else do
      let (pieces, cs) ← readPieces? cs
      return (.char c :: pieces, cs)
  | [] => none

/-- The first half of a pair of code units. -/
def isHigh (n : Nat) : Bool := decide (0xD800 ≤ n ∧ n < 0xDC00)

/-- The second half of a pair of code units. -/
def isLow (n : Nat) : Bool := decide (0xDC00 ≤ n ∧ n < 0xE000)

/-- The characters of a string; none if a half of a pair stands alone. -/
def assemble? : List Piece → Option (List Char)
  | [] => some []
  | .char c :: rest => (assemble? rest).map (c :: ·)
  | .unit high :: .unit low :: rest =>
    if isHigh high then
      if isLow low then
        let n := 0x10000 + (high - 0xD800) * 0x400 + (low - 0xDC00)
        (assemble? rest).map (Char.ofNat n :: ·)
      else none
    else if isLow high then none
    else (assemble? (.unit low :: rest)).map (Char.ofNat high :: ·)
  | .unit n :: rest =>
    if isHigh n || isLow n then none else (assemble? rest).map (Char.ofNat n :: ·)

/-- A string after its opening quote. -/
def readString? (cs : List Char) : Option (Option String × List Char) :=
  (readPieces? cs).map fun (pieces, cs) => ((assemble? pieces).map String.ofList, cs)

/-- The rest of the characters after the given ones. -/
def expect? : (word : List Char) → List Char → Option (List Char)
  | [], cs => some cs
  | w :: word, c :: cs => if w = c then expect? word cs else none
  | _ :: _, [] => none

mutual

/-- A value, with white space before it. -/
def readValue? : (depth : Nat) → List Char → Option (Json × List Char)
  | 0, _ => none
  | depth + 1, cs =>
    match skip cs with
    | 'n' :: cs => (expect? ['u', 'l', 'l'] cs).map fun cs => (.null, cs)
    | 't' :: cs => (expect? ['r', 'u', 'e'] cs).map fun cs => (.bool true, cs)
    | 'f' :: cs => (expect? ['a', 'l', 's', 'e'] cs).map fun cs => (.bool false, cs)
    | '"' :: cs => (readString? cs).map fun (text, cs) => (.string text, cs)
    | '[' :: cs =>
      match skip cs with
      | ']' :: cs => some (.array [], cs)
      | cs => (readItems? depth cs).map fun (items, cs) => (.array items, cs)
    | '{' :: cs =>
      match skip cs with
      | '}' :: cs => some (.object [], cs)
      | cs => (readMembers? depth cs).map fun (members, cs) => (.object members, cs)
    | cs => (readNumeral? cs).map fun (numeral, cs) => (.number numeral, cs)

/-- The items of an array, at least one, and the bracket after them. -/
def readItems? : (depth : Nat) → List Char → Option (List Json × List Char)
  | 0, _ => none
  | depth + 1, cs => do
    let (item, cs) ← readValue? depth cs
    match skip cs with
    | ']' :: cs => return ([item], cs)
    | ',' :: cs => do
      let (items, cs) ← readItems? depth cs
      return (item :: items, cs)
    | _ => none

/-- The members of an object, at least one, and the brace after them. -/
def readMembers? : (depth : Nat) → List Char → Option (List (Option String × Json) × List Char)
  | 0, _ => none
  | depth + 1, cs => do
    let cs ← expect? ['"'] (skip cs)
    let (name, cs) ← readString? cs
    let cs ← expect? [':'] (skip cs)
    let (value, cs) ← readValue? depth cs
    match skip cs with
    | '}' :: cs => return ([(name, value)], cs)
    | ',' :: cs => do
      let (members, cs) ← readMembers? depth cs
      return ((name, value) :: members, cs)
    | _ => none

end

/-- The value that a text holds, with nothing but white space around it. -/
def read? (text : String) : Option Json :=
  let cs := text.toList
  match readValue? (2 * cs.length + 2) cs with
  | some (value, rest) => if (skip rest).isEmpty then some value else none
  | none => none

end GeometryIndex.Json

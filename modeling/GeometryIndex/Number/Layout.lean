import GeometryIndex.Number.Shortest

/-!
# How a number is written

A `Layout` holds the choices of one kind of text: where positional notation ends, whether a whole
number keeps its `.0`, whether a positive exponent has a sign, how ties between decimals go, and the
words for what is not finite.
-/

namespace GeometryIndex

structure Layout where
  /-- The least exponent of the first digit that is still written positionally, if there is one. -/
  leastPositional : Option Int
  /-- The greatest such exponent, if there is one. -/
  greatestPositional : Option Int
  /-- What follows the digits of a whole number in positional notation. -/
  wholeSuffix : String
  /-- What stands before a positive exponent. -/
  exponentPlus : String
  tie : Tie
  nan : String
  infinity : String
  negativeInfinity : String

namespace Layout

/-- Whether a number whose first digit stands for `10 ^ exponent` is written positionally. -/
def isPositional (l : Layout) (exponent : Int) : Bool :=
  l.leastPositional.all (fun least => decide (least ≤ exponent)) &&
    l.greatestPositional.all fun greatest => decide (exponent ≤ greatest)

def zeros (n : Nat) : String := String.ofList (List.replicate n '0')

/-- All places written out; `point` is the number of digits before the point. -/
def positional (l : Layout) (digits : List Char) (point : Int) : String :=
  let n := digits.length
  if point ≤ 0 then "0." ++ zeros (-point).toNat ++ String.ofList digits
  else if point.toNat < n then
    String.ofList (digits.take point.toNat) ++ "." ++ String.ofList (digits.drop point.toNat)
  else String.ofList digits ++ zeros (point.toNat - n) ++ l.wholeSuffix

/-- One digit before the point, and the power of ten after an `e`. -/
def scientific (l : Layout) (digits : List Char) (exponent : Int) : String :=
  let mantissa := match digits with
    | [] => ""
    | [d] => String.singleton d
    | d :: rest => String.singleton d ++ "." ++ String.ofList rest
  mantissa ++ "e" ++ (if 0 < exponent then l.exponentPlus else "") ++ toString exponent

/-- The text of a positive decimal. -/
def decimal (l : Layout) (d : Decimal) : String :=
  let digits := Nat.toDigits 10 d.digits
  let point := (digits.length : Int) + d.exponent
  if l.isPositional (point - 1) then l.positional digits point
  else l.scientific digits (point - 1)

/-- The text of a number.  A NaN has no sign; zero has one. -/
def write {f : Format} (l : Layout) (x : Binary f) : String :=
  if x.isNaN then l.nan
  else if x.isInfinite then (if x.negative then l.negativeInfinity else l.infinity)
  else
    let sign := if x.negative then "-" else ""
    if x.magnitude = 0 then sign ++ "0" ++ l.wholeSuffix
    else sign ++ l.decimal (f.shortest l.tie x.magnitude)

/-- In messages: the fewest digits, never an exponent, and no point in a whole number. -/
def message : Layout :=
  { leastPositional := none, greatestPositional := none, wholeSuffix := ""
    exponentPlus := "", tie := .up
    nan := "NaN", infinity := "inf", negativeInfinity := "-inf" }

/-- In descriptions of values: a whole number keeps its `.0`, and the numbers below `1e-4` and from
`1e16` on have an exponent. -/
def description : Layout :=
  { leastPositional := some (-4), greatestPositional := some 15, wholeSuffix := ".0"
    exponentPlus := "", tie := .up
    nan := "NaN", infinity := "inf", negativeInfinity := "-inf" }

/-- Doubles in JSON, which has no word for what is not finite.  An exponent always has a sign. -/
def jsonDouble : Layout :=
  { leastPositional := some (-5), greatestPositional := some 15, wholeSuffix := ".0"
    exponentPlus := "+", tie := .even
    nan := "null", infinity := "null", negativeInfinity := "null" }

/-- Singles in JSON. -/
def jsonSingle : Layout :=
  { jsonDouble with leastPositional := some (-6), greatestPositional := some 12 }

end Layout

end GeometryIndex

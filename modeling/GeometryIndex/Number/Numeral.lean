import GeometryIndex.Number.Rounding

/-!
# Numerals and the numbers they stand for

A numeral stands for an integer if it has neither a fraction nor an exponent, except that a negative
zero is no integer.

Every numeral stands for a double, read in two roundings: its digits, as far as they fit a word of
64 bits, make an integer that is rounded to a double, and the result is scaled by a power of ten and
rounded again.  A numeral of up to 15 digits and a power of up to 22 is therefore read as the
nearest double.
-/

namespace GeometryIndex

/-- A decimal numeral; without a point, the fraction has no digits. -/
structure Numeral where
  negative : Bool
  whole : List Nat
  fraction : List Nat
  /-- Whether the exponent is negative, and its digits, if there is one. -/
  exponent : Option (Bool × List Nat)
  deriving DecidableEq, Repr

namespace Format

/-- The magnitude nearest to a product. -/
def product (f : Format) (a b : Nat) : Nat := f.nearest (f.units a * f.units b) f.one

/-- The magnitude nearest to a quotient. -/
def quotient (f : Format) (a b : Nat) : Nat := f.nearestRatio (f.units a) (f.units b)

/-- The magnitude nearest to a power of ten. -/
def powerOfTen (f : Format) (k : Nat) : Nat := f.nearestRatio (Nat.pow 10 k) 1

end Format

namespace Numeral

/-- The natural with the given decimal digits. -/
def natural (digits : List Nat) : Nat := digits.foldl (fun n d => n * 10 + d) 0

/-- Digits appended to a natural while it fits 64 bits, and the number of digits left over. -/
def absorb (n : Nat) : List Nat → Nat × Nat
  | [] => (n, 0)
  | d :: rest => if n * 10 + d < UInt64.size then absorb (n * 10 + d) rest else (n, rest.length + 1)

/-- The integer that a numeral stands for, if it stands for one. -/
def integer? (n : Numeral) : Option Int :=
  if n.fraction.isEmpty && n.exponent.isNone then
    match n.negative, natural n.whole with
    | false, v => some v
    | true, 0 => none
    | true, v => some (-v)
  else none

/-- The digits that count, as a natural, and the power of ten that goes with it. -/
def parts (n : Numeral) : Nat × Int :=
  let (whole, dropped) := absorb 0 n.whole
  let (digits, unread) := absorb whole n.fraction
  let places := n.fraction.length - unread
  let exponent : Int := match n.exponent with
    | none => 0
    | some (true, e) => -(natural e : Int)
    | some (false, e) => natural e
  (digits, (dropped : Int) - places + exponent)

/-- The greatest power of ten that one scaling step takes. -/
def step : Nat := 308

/-- A magnitude divided by `10 ^ step`, `count` times or until nothing is left. -/
def sink (magnitude : Nat) : (count : Nat) → Nat
  | 0 => magnitude
  | count + 1 =>
    if magnitude = 0 then 0
    else sink (Format.double.quotient magnitude (Format.double.powerOfTen step)) count

/-- A magnitude times a power of ten, if it does not become infinite. -/
def scale (magnitude : Nat) : (exponent : Int) → Option Nat
  | .ofNat k =>
    if magnitude = 0 then some 0
    else if k ≤ step then
      let m := Format.double.product magnitude (Format.double.powerOfTen k)
      if m = Format.double.infinity then none else some m
    else none
  | .negSucc k =>
    let count := k / step
    let last := k + 1 - step * count
    some (Format.double.quotient (sink magnitude count) (Format.double.powerOfTen last))

/-- The double that a numeral stands for; none if it is too large. -/
def double? (n : Numeral) : Option Double :=
  let (digits, exponent) := n.parts
  (scale (Format.double.nearestRatio digits 1) exponent).map (Binary.ofParts n.negative)

/-- The integer that a numeral stands for, if it fits a word of 64 bits, signed or not. -/
def word? (n : Numeral) : Option Int :=
  n.integer?.filter fun v => decide (Int64.minValue.toInt ≤ v ∧ v < UInt64.size)

/-- The single that a numeral stands for.  An integer is rounded once, anything else by way of a
double. -/
def single? (n : Numeral) : Option Single :=
  match n.word? with
  | some v => some (.ofParts (decide (v < 0)) (Format.single.nearestRatio v.natAbs 1))
  | none => n.double?.map Double.narrow

end Numeral

end GeometryIndex

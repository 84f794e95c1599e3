import GeometryIndex.Number.Rounding

/-!
# The shortest decimal of a number

The decimals that read back as a magnitude fill an interval around its value: up to half way to
either neighbour, the ends included exactly if the magnitude is even.  The shortest of them lies on
the coarsest grid `10 ^ p` with a point in the interval, and among the points of that grid it is the
one nearest to the value; `Tie` says which of two equally near ones is taken.

A step of one unit is `2 ^ -k`, hence `5 ^ k` steps of `10 ^ -k`: scaled so, the interval has
integer ends, and the grids are the multiples of powers of ten.
-/

namespace GeometryIndex

/-- The number `digits * 10 ^ exponent`. -/
structure Decimal where
  digits : Nat
  exponent : Int
  deriving DecidableEq, Repr

/-- Which of two equally near decimals is taken. -/
inductive Tie
  | up
  | even
  deriving DecidableEq, Repr

/-- An interval of naturals around a value. -/
structure Around where
  low : Nat
  value : Nat
  high : Nat
  closed : Bool
  deriving DecidableEq, Repr

namespace Around

def contains (a : Around) (n : Nat) : Bool :=
  if a.closed then decide (a.low ≤ n ∧ n ≤ a.high) else decide (a.low < n ∧ n < a.high)

/-- Whether the point above the value, of the two neighbours on the grid, is the nearer one. -/
def above (a : Around) (tie : Tie) (grid : Nat) : Bool :=
  let twice := 2 * (a.value % grid)
  if twice = grid then
    match tie with
    | .up => true
    | .even => decide (a.value / grid % 2 = 1)
  else decide (grid < twice)

/-- The multiple of `grid` in the interval that is nearest to the value, divided by `grid`. -/
def pick? (a : Around) (tie : Tie) (grid : Nat) : Option Nat :=
  let d := a.value / grid
  match a.contains (d * grid), a.contains ((d + 1) * grid) with
  | true, true => some (if a.above tie grid then d + 1 else d)
  | true, false => some d
  | false, true => some (d + 1)
  | false, false => none

/-- The nearest point on the coarsest grid `10 ^ p`, from the given power down, that has one. -/
def coarsest (a : Around) (tie : Tie) : Nat → Decimal
  | 0 => ⟨a.value, 0⟩
  | p + 1 =>
    match a.pick? tie (Nat.pow 10 (p + 1)) with
    | some d => ⟨d, p + 1⟩
    | none => a.coarsest tie p

end Around

namespace Format

/-- The decimals that read back as a positive magnitude, in steps of `10 ^ -(leastScale + 1)`. -/
def around (f : Format) (magnitude : Nat) : Around :=
  let step := Nat.pow 5 (f.leastScale + 1)
  let value := f.units magnitude
  { low := (f.units (magnitude - 1) + value) * step
    value := 2 * value * step
    high := (value + f.units (magnitude + 1)) * step
    closed := decide (magnitude % 2 = 0) }

/-- The shortest decimal that reads back as a positive finite magnitude. -/
def shortest (f : Format) (tie : Tie) (magnitude : Nat) : Decimal :=
  let a := f.around magnitude
  let d := a.coarsest tie (a.value.log2 / 3 + 1)
  ⟨d.digits, d.exponent - (f.leastScale + 1 : Nat)⟩

end Format

end GeometryIndex

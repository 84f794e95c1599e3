/-!
# Binary floating-point numbers as bit patterns

A number of a format is its bits: a sign and a magnitude.  The magnitudes below `infinity` are
the finite ones, in the order of their values; those above are NaNs.  `units` is the value of a
magnitude, counted in the least positive value of the format, so that all arithmetic is exact.

Two orders are read off the bits.  `rank` is the numeric one: both zeros have rank 0, and a NaN
has no place in it.  `position` is the total one: it tells all bit patterns apart, negative NaNs
first, positive NaNs last, and -0 just before +0.
-/

namespace GeometryIndex

/-- A binary interchange format: how many bits the exponent and the fraction take. -/
structure Format where
  exponentBits : Nat
  fractionBits : Nat
  deriving DecidableEq, Repr

namespace Format

def single : Format := ⟨8, 23⟩

def double : Format := ⟨11, 52⟩

/-- Bits of a number: exponent, fraction and sign. -/
def width (f : Format) : Nat := f.exponentBits + f.fractionBits + 1

/-- The number of magnitudes. -/
def span (f : Format) : Nat := Nat.pow 2 (f.exponentBits + f.fractionBits)

/-- The number of fractions, and so of magnitudes with one exponent. -/
def binade (f : Format) : Nat := Nat.pow 2 f.fractionBits

/-- The magnitude of infinity: all exponent bits set, no fraction. -/
def infinity (f : Format) : Nat := (Nat.pow 2 f.exponentBits - 1) * f.binade

/-- The leading bit of the fraction, set in a quiet NaN. -/
def quietBit (f : Format) : Nat := f.binade / 2

/-- The least positive value is `2 ^ -leastScale`. -/
def leastScale (f : Format) : Nat := Nat.pow 2 (f.exponentBits - 1) - 2 + f.fractionBits

/-- The number one, in units of the least positive value. -/
def one (f : Format) : Nat := Nat.pow 2 f.leastScale

/-- The value of a magnitude, in units of the least positive value. -/
def units (f : Format) (magnitude : Nat) : Nat :=
  let exponent := magnitude / f.binade
  let fraction := magnitude % f.binade
  if exponent = 0 then fraction else (f.binade + fraction) * Nat.pow 2 (exponent - 1)

end Format

/-- A number of a format, NaN payloads and the sign of zero included. -/
structure Binary (f : Format) where
  bits : BitVec f.width
  deriving DecidableEq, Repr

/-- A number of 64 bits. -/
abbrev Double : Type := Binary .double

/-- A number of 32 bits. -/
abbrev Single : Type := Binary .single

namespace Binary

variable {f : Format}

/-- The number with the given sign and magnitude. -/
def ofParts (negative : Bool) (magnitude : Nat) : Binary f :=
  ⟨BitVec.ofNat f.width (if negative then f.span + magnitude else magnitude)⟩

def ofBits (bits : Nat) : Binary f := ⟨BitVec.ofNat f.width bits⟩

def toBits (x : Binary f) : Nat := x.bits.toNat

def negative (x : Binary f) : Bool := decide (f.span ≤ x.toBits)

def magnitude (x : Binary f) : Nat := x.toBits % f.span

def zero : Binary f := ofParts false 0

/-- The canonical NaN: positive, quiet, with no other payload. -/
def nan : Binary f := ofParts false (f.infinity + f.quietBit)

def infinity : Binary f := ofParts false f.infinity

/-- The greatest finite number. -/
def greatest : Binary f := ofParts false (f.infinity - 1)

/-- The number nearest to zero on the other side. -/
def neg (x : Binary f) : Binary f := ofParts (!x.negative) x.magnitude

def isNaN (x : Binary f) : Bool := decide (f.infinity < x.magnitude)

def isInfinite (x : Binary f) : Bool := decide (x.magnitude = f.infinity)

/-- The place of a number in the numeric order; it means nothing for a NaN. -/
def rank (x : Binary f) : Int := if x.negative then -(x.magnitude : Int) else x.magnitude

/-- The place of a bit pattern in the total order. -/
def position (x : Binary f) : Int :=
  if x.negative then -(x.magnitude : Int) - 1 else x.magnitude

/-- Neither operand is a NaN. -/
def ordered (x y : Binary f) : Bool := !x.isNaN && !y.isNaN

/-- Numeric equality: a NaN equals nothing, and the zeros are equal. -/
def equals (x y : Binary f) : Bool := ordered x y && decide (x.rank = y.rank)

def below (x y : Binary f) : Bool := ordered x y && decide (x.rank < y.rank)

def atMost (x y : Binary f) : Bool := ordered x y && decide (x.rank ≤ y.rank)

/-- The total order on bit patterns. -/
def order (x y : Binary f) : Ordering :=
  if x.position < y.position then .lt else if x.position = y.position then .eq else .gt

/-- One NaN for all NaNs and one zero for both zeros. -/
def canonical (x : Binary f) : Binary f :=
  if x.isNaN then nan else if x.magnitude = 0 then zero else x

end Binary

end GeometryIndex

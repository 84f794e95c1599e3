import GeometryIndex.Number.Binary

/-!
# Rounding to nearest, ties to even

`Format.nearest` rounds a ratio of naturals to a magnitude of a format; what is too large becomes
infinity.  It is the only rounding here: `Binary.convert` takes a number to another format
through it, and narrowing and widening are its two instances.
-/

namespace GeometryIndex

/-- The integer nearest to `n / d`; of two, the even one. -/
def roundHalfEven (n d : Nat) : Nat :=
  let q := n / d
  let twice := 2 * (n % d)
  if twice < d then q
  else if d < twice then q + 1
  else q + q % 2

namespace Format

/-- The magnitude whose value is nearest to `n / d` units; of two, the even one.

With `shift` binary digits rounded away, `roundHalfEven` leaves `fractionBits + 1` digits, the
first of which counts towards the exponent.  A carry out of them moves on to the exponent too. -/
def nearest (f : Format) (n d : Nat) : Nat :=
  let shift := (n / d).log2 - f.fractionBits
  min (shift * f.binade + roundHalfEven n (d * Nat.pow 2 shift)) f.infinity

/-- The magnitude whose value is nearest to the ratio `n / d` itself. -/
def nearestRatio (f : Format) (n d : Nat) : Nat := f.nearest (n * f.one) d

end Format

namespace Binary

variable {f g : Format}

/-- The fraction of a NaN carried over from its leading bit, and made quiet. -/
def convertPayload (f g : Format) (fraction : Nat) : Nat :=
  (fraction * g.binade / f.binade) ||| g.quietBit

/-- The number of format `g` nearest to a number of format `f`, with the same sign. -/
def convert (x : Binary f) : Binary g :=
  if x.isNaN then
    ofParts x.negative (g.infinity + convertPayload f g (x.magnitude - f.infinity))
  else if x.isInfinite then ofParts x.negative g.infinity
  else ofParts x.negative (g.nearestRatio (f.units x.magnitude) f.one)

end Binary

/-- Single precision: to nearest, ties to even, infinity beyond the range. -/
def Double.narrow (x : Double) : Single := x.convert

/-- Every single is a double. -/
def Single.widen (x : Single) : Double := x.convert

end GeometryIndex

import GeometryIndex.Bytes.Input

/-!
# The header of a geometry

A geometry begins with its byte order and a word of 32 bits: three flags and a type code.  The
flags declare Z, M and an explicit SRID; the thousands of the code may declare Z and M as well, and
what is left of it is the kind.  An item takes over the SRID of the geometry it stands in, and may
repeat it but not change it.
-/

namespace GeometryIndex

/-- A position with all its ordinates; those that were not given are the canonical NaN. -/
structure Coordinate where
  x : Double
  y : Double
  z : Double
  m : Double
  deriving DecidableEq, Repr

/-- A point with neither X nor Y stands for no position at all. -/
def Coordinate.isEmpty (c : Coordinate) : Bool := c.x.isNaN && c.y.isNaN

structure Header where
  order : ByteOrder
  kind : Kind
  hasZ : Bool
  hasM : Bool
  srid : Int32
  deriving DecidableEq, Repr

namespace Header

/-- The bit of the type word that declares Z. -/
def zFlag : Nat := 31

/-- The bit of the type word that declares M. -/
def mFlag : Nat := 30

/-- The bit of the type word that announces an SRID. -/
def sridFlag : Nat := 29

/-- The code stands in the bits below the flags: it is the type word modulo this. -/
def codeSpan : Nat := 0x20000000

/-- The dimensions declared by the thousands of a type code: Z, then M. -/
def offsetDimensions? : Nat → Option (Bool × Bool)
  | 0 => some (false, false)
  | 1 => some (true, false)
  | 2 => some (false, true)
  | 3 => some (true, true)
  | _ => none

/-- The SRID of a geometry inside one with the SRID `parent`, if it stands in one. -/
def readSrid (order : ByteOrder) (announced : Bool) (parent : Option Int32) : Read Int32 := do
  if announced then
    let srid := (UInt32.ofNat (← Read.word order)).toInt32
    match parent with
    | some outer => if outer = srid then pure srid else Read.fail (.srid srid outer)
    | none => pure srid
  else pure (parent.getD 0)

/-- The header of a geometry inside one with the SRID `parent`, if it stands in one. -/
def read (parent : Option Int32) : Read Header := do
  let order ← Read.byteOrder
  let word ← Read.word order
  let srid ← readSrid order (word.testBit sridFlag) parent
  let code := word % codeSpan
  match offsetDimensions? (code / 1000), Kind.ofCode? (code % 1000) with
  | some (z, m), some kind =>
    return { order, kind, hasZ := word.testBit zFlag || z, hasM := word.testBit mFlag || m, srid }
  | _, _ => Read.fail (.typeCode code)

/-- The header of an item, which has to be of the kind `expected` if there is one. -/
def readItem (parent : Option Int32) (expected : Option Kind) : Read Header := do
  let header ← read parent
  match expected with
  | some kind => if header.kind = kind then pure header else Read.fail (.itemKind header.kind kind)
  | none => pure header

/-- The bytes that a coordinate takes. -/
def coordinateSize (h : Header) : Nat := 8 * (2 + h.hasZ.toNat + h.hasM.toNat)

/-- An ordinate in canonical form, or the canonical NaN if it is not declared. -/
def readOrdinate (h : Header) (declared : Bool) : Read Double := do
  if declared then
    return (← Read.double h.order).canonical
  else pure .nan

def readCoordinate (h : Header) : Read Coordinate := do
  let x ← h.readOrdinate true
  let y ← h.readOrdinate true
  let z ← h.readOrdinate h.hasZ
  let m ← h.readOrdinate h.hasM
  return { x, y, z, m }

end Header

end GeometryIndex

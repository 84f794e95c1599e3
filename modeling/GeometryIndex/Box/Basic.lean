import GeometryIndex.Error
import GeometryIndex.Number.Rounding

/-!
# Boxes

An axis-aligned rectangle with bounds of a floating-point format.  An `Envelope` has doubles, the
box of a key has singles.  Bounds are compared as numbers, and copied as bit patterns: no operation
here changes a bound, it only chooses between two.  Absence is an ordinary operand of `overlap`,
where it meets nothing, and of `join`, where it adds nothing.
-/

namespace GeometryIndex

structure Box (f : Format) where
  minX : Binary f
  maxX : Binary f
  minY : Binary f
  maxY : Binary f
  deriving DecidableEq, Repr

/-- A bounding box of a geometry. -/
abbrev Envelope : Type := Box .double

/-- A bounding box with the precision of a key. -/
abbrev KeyBox : Type := Box .single

namespace Box

variable {f g : Format}

/-- The box of one position. -/
def point (x y : Binary f) : Box f := ⟨x, x, y, y⟩

/-- Each bound changed by the same function. -/
def map (change : Binary f → Binary g) (b : Box f) : Box g :=
  ⟨change b.minX, change b.maxX, change b.minY, change b.maxY⟩

def flatX (b : Box f) : Bool := b.minX.equals b.maxX

def flatY (b : Box f) : Bool := b.minY.equals b.maxY

/-- Both axes have one value only. -/
def isPoint (b : Box f) : Bool := b.flatX && b.flatY

/-- Some axis has one value only. -/
def isDegenerate (b : Box f) : Bool := b.flatX || b.flatY

/-- The boxes overlap or touch. -/
def intersects (a b : Box f) : Bool :=
  b.minX.atMost a.maxX && a.minX.atMost b.maxX && b.minY.atMost a.maxY && a.minY.atMost b.maxY

/-- The lower of two bounds, the first unless the second is below it. -/
def lower (x y : Binary f) : Binary f := if y.below x then y else x

/-- The upper of two bounds, the first unless it is below the second. -/
def upper (x y : Binary f) : Binary f := if x.below y then y else x

/-- The first box, widened where the second reaches further. -/
def union (a b : Box f) : Box f :=
  ⟨lower a.minX b.minX, upper a.maxX b.maxX, lower a.minY b.minY, upper a.maxY b.maxY⟩

/-- The box widened to reach a position. -/
def expand (b : Box f) (x y : Binary f) : Box f := b.union (point x y)

/-- Whether two boxes are the same as numbers: never so for a box with a NaN. -/
def equals (a b : Box f) : Bool :=
  a.minX.equals b.minX && a.maxX.equals b.maxX && a.minY.equals b.minY && a.maxY.equals b.maxY

/-- The total order: bound by bound, in the order of the fields. -/
def order (a b : Box f) : Ordering :=
  (a.minX.order b.minX).then <| (a.maxX.order b.maxX).then <|
    (a.minY.order b.minY).then <| a.maxY.order b.maxY

/-- Two boxes, both present, that overlap or touch. -/
def overlap : Option (Box f) → Option (Box f) → Bool
  | some a, some b => a.intersects b
  | _, _ => false

/-- The union of what is present. -/
def join : Option (Box f) → Option (Box f) → Option (Box f)
  | some a, some b => some (a.union b)
  | none, b => b
  | a, none => a

end Box

namespace Envelope

/-- An envelope with bounds from outside: in order on both axes, hence no NaN. -/
def checked (minX maxX minY maxY : Double) : Except DecodeFault Envelope :=
  if minX.atMost maxX && minY.atMost maxY then .ok ⟨minX, maxX, minY, maxY⟩
  else .error (.bounds minX maxX minY maxY)

/-- The box of a key: each bound to the nearest single. -/
def narrow (e : Envelope) : KeyBox := e.map Double.narrow

end Envelope

/-- The envelope with the same bounds. -/
def KeyBox.widen (b : KeyBox) : Envelope := b.map Single.widen

end GeometryIndex

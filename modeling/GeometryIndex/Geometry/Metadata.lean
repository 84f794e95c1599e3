import GeometryIndex.Box.Basic
import GeometryIndex.Geometry.Dimensions
import GeometryIndex.Geometry.Walk

/-!
# What is known of a geometry without keeping it

Two targets: one gathers the envelope of the shells, one the dimensions that some coordinate really
has.  Both work in one walk as well.
-/

namespace GeometryIndex

/-- The envelope gathered so far, and whether the current coordinates count. -/
structure Shell where
  counting : Bool
  envelope : Option Envelope

namespace Shell

def start : Shell := ⟨false, none⟩

/-- The envelope widened by a coordinate, if coordinates count. -/
def add (c : Coordinate) (s : Shell) : Shell :=
  if s.counting then
    { s with envelope := some (s.envelope.elim (.point c.x c.y) fun e => e.expand c.x c.y) }
  else s

/-- Gathers the envelope of all points, line strings and outer rings.  Inner rings do not count. -/
def target : Target Shell where
  startPoint _ s := { s with counting := true }
  startLineString _ _ s := { s with counting := true }
  startPolygon _ _ _ s := { s with counting := true }
  startInnerRing _ s := { s with counting := false }
  addCoordinate c _ _ s := s.add c

end Shell

/-- The dimensions met so far. -/
structure Extent where
  z : Bool
  m : Bool

namespace Extent

def start : Extent := ⟨false, false⟩

/-- A dimension is met when an ordinate of it is a number. -/
def add (c : Coordinate) (e : Extent) : Extent := ⟨e.z || !c.z.isNaN, e.m || !c.m.isNaN⟩

/-- Gathers the dimensions of all coordinates, those of inner rings included. -/
def target : Target Extent where
  addCoordinate c _ _ e := e.add c

def dimensions (e : Extent) : Dimensions := .ofFlags e.z e.m

end Extent

namespace Geometry

/-- The envelope of a geometry, absent if it is empty. -/
def envelope (bytes : List UInt8) : Except DecodeFault (Option Envelope) :=
  match parse Shell.target bytes .start with
  | (.error fault, _) => .error fault
  | (.ok (), s) => .ok s.envelope

/-- The dimensions that some coordinate of a geometry has. -/
def dimensions (bytes : List UInt8) : Except DecodeFault Dimensions :=
  match parse Extent.target bytes .start with
  | (.error fault, _) => .error fault
  | (.ok (), e) => .ok e.dimensions

/-- The envelope and the dimensions, in one walk. -/
def metadata (bytes : List UInt8) : Except DecodeFault (Option Envelope × Dimensions) :=
  match parse (Extent.target.both Shell.target) bytes (.start, .start) with
  | (.error fault, _) => .error fault
  | (.ok (), e, s) => .ok (s.envelope, e.dimensions)

end Geometry

end GeometryIndex

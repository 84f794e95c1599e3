import GeometryIndex.Box.Basic
import GeometryIndex.Geometry.Tree.Basic

/-!
# The compact form of an envelope

The smallest planar geometry with a given envelope: a point if both axes have one value only, a line
string of two points if one has, and a polygon of one ring otherwise.  These bytes are kept as
column values.
-/

namespace GeometryIndex.Envelope

/-- A planar position. -/
def corner (x y : Double) : Coordinate := ⟨x, y, .nan, .nan⟩

/-- The corners in turn, from the least one back to it. -/
def ring (e : Envelope) : List Coordinate :=
  [corner e.minX e.minY, corner e.minX e.maxY, corner e.maxX e.maxY, corner e.maxX e.minY,
    corner e.minX e.minY]

/-- The smallest geometry with this envelope. -/
def tree (e : Envelope) : Tree :=
  if e.isPoint then .point .plain (corner e.minX e.minY)
  else if e.isDegenerate then
    .lineString .plain [corner e.minX e.minY, corner e.maxX e.maxY]
  else .polygon .plain [e.ring]

def compact (e : Envelope) : List UInt8 := e.tree.bytes

end GeometryIndex.Envelope

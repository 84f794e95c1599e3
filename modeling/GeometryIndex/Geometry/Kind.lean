/-!
# Kinds of geometry

Seven kinds have a type code.  The last four are collections; three of those hold items of one
simple kind only (`Collection.itemKind?`).
-/

namespace GeometryIndex

/-- Kinds whose geometries hold other geometries. -/
inductive Collection
  | multiPoint
  | multiLineString
  | multiPolygon
  | geometryCollection
  deriving DecidableEq, Repr

inductive Kind
  | point
  | lineString
  | polygon
  | collection (collection : Collection)
  deriving DecidableEq, Repr

/-- The only kind of item that a collection takes, if it is restricted to one. -/
def Collection.itemKind? : Collection → Option Kind
  | .multiPoint => some .point
  | .multiLineString => some .lineString
  | .multiPolygon => some .polygon
  | .geometryCollection => none

namespace Kind

/-- All kinds, in the order of their codes. -/
def all : List Kind :=
  [.point, .lineString, .polygon, .collection .multiPoint, .collection .multiLineString,
    .collection .multiPolygon, .collection .geometryCollection]

/-- The type code of a planar geometry. -/
def code : Kind → Nat
  | .point => 1
  | .lineString => 2
  | .polygon => 3
  | .collection .multiPoint => 4
  | .collection .multiLineString => 5
  | .collection .multiPolygon => 6
  | .collection .geometryCollection => 7

def ofCode? : Nat → Option Kind
  | 1 => some .point
  | 2 => some .lineString
  | 3 => some .polygon
  | 4 => some (.collection .multiPoint)
  | 5 => some (.collection .multiLineString)
  | 6 => some (.collection .multiPolygon)
  | 7 => some (.collection .geometryCollection)
  | _ => none

@[simp] theorem ofCode?_code (kind : Kind) : ofCode? kind.code = some kind := by
  rcases kind with _ | _ | _ | ⟨_ | _ | _ | _⟩ <;> rfl

def isCollection : Kind → Bool
  | .collection _ => true
  | _ => false

/-- The only kind of item that a geometry of this kind takes, if it is restricted to one. -/
def itemKind? : Kind → Option Kind
  | .collection c => c.itemKind?
  | _ => none

def name : Kind → String
  | .point => "Point"
  | .lineString => "LineString"
  | .polygon => "Polygon"
  | .collection .multiPoint => "MultiPoint"
  | .collection .multiLineString => "MultiLineString"
  | .collection .multiPolygon => "MultiPolygon"
  | .collection .geometryCollection => "GeometryCollection"

def ofName? (name : String) : Option Kind := all.find? fun kind => kind.name == name

end Kind

end GeometryIndex

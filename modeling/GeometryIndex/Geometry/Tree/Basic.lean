import GeometryIndex.Geometry.Header

/-!
# Geometries as trees, and how they are written

A tree holds all choices that the binary form leaves open at each node: the byte order, how Z and M
are declared, and whether the SRID is written.  `Tree.bytes` writes it.  Not every tree is a
geometry that can be read back: `Tree.Valid` says which are.
-/

namespace GeometryIndex

/-- How one node of a geometry is written. -/
structure Form where
  order : ByteOrder
  /-- Z is declared by its flag. -/
  zFlag : Bool
  /-- M is declared by its flag. -/
  mFlag : Bool
  /-- Z is declared by the thousands of the type code. -/
  zOffset : Bool
  /-- M is declared by the thousands of the type code. -/
  mOffset : Bool
  /-- The SRID, if it is written at this node. -/
  srid : Option Int32
  deriving DecidableEq, Repr

namespace Form

/-- Planar, most significant byte first, without an SRID. -/
def plain : Form := ⟨.big, false, false, false, false, none⟩

def hasZ (form : Form) : Bool := form.zFlag || form.zOffset

def hasM (form : Form) : Bool := form.mFlag || form.mOffset

/-- The type word of a node of the given kind. -/
def typeWord (form : Form) (kind : Kind) : Nat :=
  kind.code + 1000 * (form.zOffset.toNat + 2 * form.mOffset.toNat) +
    Nat.pow 2 Header.sridFlag * form.srid.isSome.toNat +
    Nat.pow 2 Header.mFlag * form.mFlag.toNat + Nat.pow 2 Header.zFlag * form.zFlag.toNat

def word (form : Form) (n : Nat) : List UInt8 := form.order.encode 4 n

def double (form : Form) (x : Double) : List UInt8 := form.order.encode 8 x.toBits

/-- The header of a node of the given kind. -/
def header (form : Form) (kind : Kind) : List UInt8 :=
  form.order.mark :: form.word (form.typeWord kind) ++
    form.srid.elim [] fun srid => form.word srid.toUInt32.toNat

/-- The ordinates that the form declares. -/
def coordinate (form : Form) (c : Coordinate) : List UInt8 :=
  form.double c.x ++ form.double c.y ++
    (if form.hasZ then form.double c.z else []) ++ (if form.hasM then form.double c.m else [])

/-- A number of coordinates, and the coordinates. -/
def path (form : Form) (cs : List Coordinate) : List UInt8 :=
  form.word cs.length ++ cs.flatMap form.coordinate

end Form

inductive Tree
  | point (form : Form) (position : Coordinate)
  | lineString (form : Form) (path : List Coordinate)
  | polygon (form : Form) (rings : List (List Coordinate))
  | collection (form : Form) (collection : Collection) (items : List Tree)

namespace Tree

/-- The levels of geometries within geometries that are accepted: the outermost and 64 more. -/
def room : Nat := 65

def form : Tree → Form
  | .point form _ => form
  | .lineString form _ => form
  | .polygon form _ => form
  | .collection form _ _ => form

def kind : Tree → Kind
  | .point .. => .point
  | .lineString .. => .lineString
  | .polygon .. => .polygon
  | .collection _ c _ => .collection c

mutual

/-- The binary form of a geometry. -/
def bytes : Tree → List UInt8
  | .point form position => form.header .point ++ form.coordinate position
  | .lineString form path => form.header .lineString ++ form.path path
  | .polygon form rings =>
    form.header .polygon ++ form.word rings.length ++ rings.flatMap form.path
  | .collection form c items =>
    form.header (.collection c) ++ form.word items.length ++ bytesOfItems items

/-- The binary forms of the items of a collection, one after the other. -/
def bytesOfItems : List Tree → List UInt8
  | [] => []
  | item :: items => item.bytes ++ bytesOfItems items

end

/-- The SRID of a node inside a geometry with the SRID `outer`. -/
def srid (outer : Int32) (t : Tree) : Int32 := t.form.srid.getD outer

mutual

/-- The levels of a geometry: itself and the deepest of its items. -/
def levels : Tree → Nat
  | .point .. | .lineString .. | .polygon .. => 1
  | .collection _ _ items => levelsOfItems items + 1

/-- The levels of the deepest of several items. -/
def levelsOfItems : List Tree → Nat
  | [] => 0
  | item :: items => max item.levels (levelsOfItems items)

end

/-- A number that can be written as a count. -/
def Countable (n : Nat) : Prop := n < UInt32.size

/-- The SRID of a node, if it is written, is that of the geometry around it, if there is one. -/
def AgreesWith (outer : Option Int32) (t : Tree) : Prop :=
  ∀ srid ∈ t.form.srid, ∀ around ∈ outer, srid = around

/-- The node is of the only kind accepted, if there is one. -/
def HasKind (expected : Option Kind) (t : Tree) : Prop := ∀ kind ∈ expected, t.kind = kind

mutual

/-- A tree inside a geometry with the SRID `outer`, if there is one, whose counts can be written,
whose SRIDs agree, and whose items are of the kind that their collection takes. -/
def WellFormed (outer : Option Int32) : Tree → Prop
  | t@(.point ..) => t.AgreesWith outer
  | t@(.lineString _ path) => t.AgreesWith outer ∧ Countable path.length
  | t@(.polygon _ rings) =>
    t.AgreesWith outer ∧ Countable rings.length ∧ ∀ ring ∈ rings, Countable ring.length
  | t@(.collection _ c items) =>
    t.AgreesWith outer ∧ Countable items.length ∧
      WellFormedItems (t.srid (outer.getD 0)) c.itemKind? items

/-- Well-formed items of a geometry with the SRID `outer`. -/
def WellFormedItems (outer : Int32) (expected : Option Kind) : List Tree → Prop
  | [] => True
  | item :: items =>
    item.HasKind expected ∧ item.WellFormed (some outer) ∧ WellFormedItems outer expected items

end

/-- A well-formed geometry that is not nested too deeply. -/
def Valid (t : Tree) : Prop := t.WellFormed none ∧ t.levels ≤ room

end Tree

end GeometryIndex

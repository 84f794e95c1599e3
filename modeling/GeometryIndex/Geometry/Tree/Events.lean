import GeometryIndex.Geometry.Recorder
import GeometryIndex.Geometry.Tree.Basic

/-!
# The events of a tree

What a walk over the binary form of a geometry tells its target, in document order, read off the
tree.  Ordinates are canonical, and those that a node does not declare are NaN.
-/

namespace GeometryIndex

/-- The coordinate as it is told: canonical, and without what the form does not declare. -/
def Form.told (form : Form) (c : Coordinate) : Coordinate :=
  { x := c.x.canonical
    y := c.y.canonical
    z := if form.hasZ then c.z.canonical else .nan
    m := if form.hasM then c.m.canonical else .nan }

/-- The events of the coordinates of a sequence. -/
def Form.pathEvents (form : Form) (path : List Coordinate) : List Event :=
  path.mapIdx fun index c => .coordinate (form.told c) index path.length

/-- The events of the rings of a polygon after the outer one. -/
def Form.innerEvents (form : Form) (rings : List (List Coordinate)) : List Event :=
  rings.flatMap fun ring => .innerRing ring.length :: form.pathEvents ring

namespace Tree

mutual

/-- The events of a tree inside a geometry with the SRID `outer`. -/
def events (outer : Int32) : Tree → List Event
  | t@(.point form position) =>
    let c := form.told position
    .point (t.srid outer) :: if c.isEmpty then [] else [.coordinate c 0 1]
  | t@(.lineString form path) =>
    .lineString (t.srid outer) path.length :: form.pathEvents path
  | t@(.polygon form rings) =>
    match rings with
    | [] => [.polygon (t.srid outer) 0 0]
    | ring :: rings =>
      .polygon (t.srid outer) rings.length ring.length ::
        (form.pathEvents ring ++ form.innerEvents rings ++ [.endPolygon])
  | t@(.collection _ c items) =>
    .collection c (t.srid outer) items.length ::
      (eventsOfItems (t.srid outer) items.length 0 items ++ [.endCollection c])

/-- The events of the items of a collection, from the given index on. -/
def eventsOfItems (outer : Int32) (total index : Nat) : List Tree → List Event
  | [] => []
  | item :: items =>
    .item index total ::
      (item.events outer ++ [.endItem index total none] ++
        eventsOfItems outer total (index + 1) items)

end

end Tree

end GeometryIndex

import GeometryIndex.Geometry.Header

/-!
# Targets

A target is told what a walk over a geometry meets, in document order, and keeps a state of its
own.  It may hand an item of a collection to a separate state, which it gets back after the item.
-/

namespace GeometryIndex

universe u v

/-- What to do on meeting each part of a geometry.  A target without an opinion keeps its state. -/
structure Target (σ : Type u) where
  /-- Before the coordinate of a point. -/
  startPoint (srid : Int32) : σ → σ := id
  /-- Before the coordinates of a line string. -/
  startLineString (srid : Int32) (points : Nat) : σ → σ := id
  /-- Before the outer ring of a polygon; a polygon without rings has `0` and `0`. -/
  startPolygon (srid : Int32) (inner points : Nat) : σ → σ := id
  /-- Before an inner ring of a polygon. -/
  startInnerRing (points : Nat) : σ → σ := id
  /-- After the last ring of a polygon that has one. -/
  endPolygon : σ → σ := id
  /-- Before the items of a collection. -/
  startCollection (collection : Collection) (srid : Int32) (items : Nat) : σ → σ := id
  /-- Before an item: the new state, and a separate one for the item if it is to have one. -/
  startItem (index total : Nat) : σ → σ × Option σ := fun state => (state, none)
  /-- After an item, with the separate state it was given. -/
  endItem (item : Option σ) (index total : Nat) : σ → σ := id
  /-- After the last item of a collection. -/
  endCollection (collection : Collection) : σ → σ := id
  addCoordinate (coordinate : Coordinate) (index total : Nat) : σ → σ

namespace Target

/-- A target that gives no item a state of its own. -/
def IsFlat {σ : Type u} (t : Target σ) : Prop :=
  ∀ index total state, (t.startItem index total state).2 = none

/-- Two targets told the same, neither of which separates items. -/
def both {σ : Type u} {τ : Type v} (s : Target σ) (t : Target τ) : Target (σ × τ) where
  startPoint srid := Prod.map (s.startPoint srid) (t.startPoint srid)
  startLineString srid n := Prod.map (s.startLineString srid n) (t.startLineString srid n)
  startPolygon srid inner n := Prod.map (s.startPolygon srid inner n) (t.startPolygon srid inner n)
  startInnerRing n := Prod.map (s.startInnerRing n) (t.startInnerRing n)
  endPolygon := Prod.map s.endPolygon t.endPolygon
  startCollection c srid n := Prod.map (s.startCollection c srid n) (t.startCollection c srid n)
  startItem index total state :=
    (((s.startItem index total state.1).1, (t.startItem index total state.2).1), none)
  endItem _ index total := Prod.map (s.endItem none index total) (t.endItem none index total)
  endCollection c := Prod.map (s.endCollection c) (t.endCollection c)
  addCoordinate c index total :=
    Prod.map (s.addCoordinate c index total) (t.addCoordinate c index total)

end Target

end GeometryIndex

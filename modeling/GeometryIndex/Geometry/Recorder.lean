import GeometryIndex.Geometry.Walk

/-!
# Recorders

A recorder is a target that keeps everything it is told, in order.  A routing policy decides which
items get a recorder of their own; what that one kept becomes part of the event that ends the item.
-/

namespace GeometryIndex

/-- One thing told to a target. -/
inductive Event
  | point (srid : Int32)
  | lineString (srid : Int32) (points : Nat)
  | polygon (srid : Int32) (inner points : Nat)
  | innerRing (points : Nat)
  | endPolygon
  | collection (collection : Collection) (srid : Int32) (items : Nat)
  | item (index total : Nat)
  | endItem (index total : Nat) (own : Option (List Event))
  | endCollection (collection : Collection)
  | coordinate (coordinate : Coordinate) (index total : Nat)

/-- The events kept so far, and a note for the routing policy. -/
structure Recorder (τ : Type) where
  note : τ
  events : List Event

namespace Recorder

/-- Decides from a recorder, an index and a total whether the item gets a recorder of its own, and
with which note. -/
abbrev Policy (τ : Type) : Type := Recorder τ → (index total : Nat) → Option τ

variable {τ : Type}

def start (note : τ) : Recorder τ := ⟨note, []⟩

def keep (e : Event) (r : Recorder τ) : Recorder τ := { r with events := r.events ++ [e] }

/-- The recorder that routes items by a policy. -/
def target (policy : Policy τ) : Target (Recorder τ) where
  startPoint srid := keep (.point srid)
  startLineString srid n := keep (.lineString srid n)
  startPolygon srid inner n := keep (.polygon srid inner n)
  startInnerRing n := keep (.innerRing n)
  endPolygon := keep .endPolygon
  startCollection c srid n := keep (.collection c srid n)
  startItem index total r :=
    let r := r.keep (.item index total)
    (r, (policy r index total).map start)
  endItem own index total := keep (.endItem index total (own.map Recorder.events))
  endCollection c := keep (.endCollection c)
  addCoordinate c index total := keep (.coordinate c index total)

/-- Keeps everything in one place. -/
def flat : Target (Recorder Unit) := target fun _ _ _ => none

/-- A recorder for every item, at every level. -/
def separate : Target (Recorder Unit) := target fun _ _ _ => some ()

/-- A recorder for every other item, from the first on, at every level. -/
def alternate : Target (Recorder Unit) :=
  target fun _ index _ => if index % 2 = 0 then some () else none

/-- Keeps the coordinates and nothing else. -/
def coordinates : Target (Recorder Unit) where
  addCoordinate c index total := keep (.coordinate c index total)

end Recorder

end GeometryIndex

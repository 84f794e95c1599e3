import GeometryIndex.Proofs.Number.Canonical
import GeometryIndex.Proofs.Reading.Itemwise
import GeometryIndex.Proofs.Reading.Metadata
import Mathlib.Data.List.Forall2

/-!
# Reading — the dimensions of a geometry

Every coordinate of a geometry is reported, of points, line strings, outer and inner rings alike and
at any depth, but for a point without a position (`Tree.reported`, `Tree.told_events`).  It is laid
out as the header of its own node declares, and an ordinate that is not declared is told as NaN.  A
dimension is met by one ordinate that is a number.

* `Extent.has_tellAll`: so the dimensions met in a tree are those that it shows (`Tree.Shows`);
* `Geometry.dimensions_minimal`: hence the dimensions of bytes are the least that hold all of its
  numbers, and those of a collection the dimensions of its items taken together.
-/

namespace GeometryIndex

/-! ### One dimension at a time -/

/-- A dimension beyond X and Y. -/
inductive Dimension
  | z
  | m
  deriving DecidableEq, Repr

def Coordinate.ordinate (c : Coordinate) : Dimension → Double
  | .z => c.z
  | .m => c.m

/-- Whether the node declares the dimension, by its flag or by the thousands of the type code. -/
def Form.declares (form : Form) : Dimension → Bool
  | .z => form.zFlag || form.zOffset
  | .m => form.mFlag || form.mOffset

def Dimensions.has (d : Dimensions) : Dimension → Bool
  | .z => d.hasZ
  | .m => d.hasM

def Extent.has (e : Extent) : Dimension → Bool
  | .z => e.z
  | .m => e.m

theorem Extent.has_dimensions (e : Extent) (dim : Dimension) :
    e.dimensions.has dim = e.has dim := by
  cases dim
  · exact Dimensions.hasZ_ofFlags e.z e.m
  · exact Dimensions.hasM_ofFlags e.z e.m

theorem Extent.has_add (c : Coordinate) (e : Extent) (dim : Dimension) :
    (e.add c).has dim = (e.has dim || !(c.ordinate dim).isNaN) := by
  cases dim <;> rfl

/-- An ordinate is told as a number exactly if it is declared and is one. -/
theorem Form.isNaN_told (form : Form) (c : Coordinate) (dim : Dimension) :
    ((form.told c).ordinate dim).isNaN = false ↔
      form.declares dim = true ∧ (c.ordinate dim).isNaN = false := by
  have hnan : (Binary.nan : Double).isNaN = true := Binary.isNaN_nan Double.one_lt_binade
  have hcanonical := fun x : Double => Binary.isNaN_canonical Double.one_lt_binade x
  cases dim with
  | z =>
    show (if form.hasZ then c.z.canonical else .nan : Double).isNaN = false ↔ form.hasZ = true ∧ _
    cases form.hasZ <;> simp [hnan, hcanonical, Coordinate.ordinate]
  | m =>
    show (if form.hasM then c.m.canonical else .nan : Double).isNaN = false ↔ form.hasM = true ∧ _
    cases form.hasM <;> simp [hnan, hcanonical, Coordinate.ordinate]

theorem Form.isEmpty_told (form : Form) (c : Coordinate) : (form.told c).isEmpty = c.isEmpty := by
  show (c.x.canonical.isNaN && c.y.canonical.isNaN) = (c.x.isNaN && c.y.isNaN)
  rw [Binary.isNaN_canonical Double.one_lt_binade, Binary.isNaN_canonical Double.one_lt_binade]

/-! ### The coordinates that are reported -/

namespace Event

/-- The coordinate that is told, if one is. -/
def coordinate? : Event → Option Coordinate
  | .coordinate c _ _ => some c
  | _ => none

end Event

/-- The coordinates that are told, in order. -/
def coordinatesOf (events : List Event) : List Coordinate := events.filterMap Event.coordinate?

theorem coordinatesOf_append (first second : List Event) :
    coordinatesOf (first ++ second) = coordinatesOf first ++ coordinatesOf second :=
  List.filterMap_append

theorem coordinatesOf_mapIdx {α : Type} {event : Nat → α → Event} (told : α → Coordinate)
    (h : ∀ index a, (event index a).coordinate? = some (told a)) (as : List α) :
    coordinatesOf (as.mapIdx event) = as.map told := by
  induction as generalizing event with
  | nil => rfl
  | cons a as ih =>
    rw [List.mapIdx_cons, coordinatesOf, List.filterMap_cons_some (h 0 a), List.map_cons]
    exact congrArg _ (ih fun index => h (index + 1))

theorem coordinatesOf_pathEvents (form : Form) (path : List Coordinate) :
    coordinatesOf (form.pathEvents path) = path.map form.told :=
  coordinatesOf_mapIdx form.told (fun _ _ => rfl) path

theorem coordinatesOf_innerEvents (form : Form) (rings : List (List Coordinate)) :
    coordinatesOf (form.innerEvents rings) = rings.flatten.map form.told := by
  induction rings with
  | nil => rfl
  | cons ring rings ih =>
    rw [Form.innerEvents, List.flatMap_cons, coordinatesOf_append, ← Form.innerEvents, ih,
      List.flatten_cons, List.map_append]
    exact congrArg (· ++ _) (coordinatesOf_pathEvents form ring)

namespace Tree

mutual

/-- The coordinates that are reported, each with the form of the node it belongs to, in document
order. -/
def reported : Tree → List (Form × Coordinate)
  | .point form position => if position.isEmpty then [] else [(form, position)]
  | .lineString form path => path.map fun c => (form, c)
  | .polygon form rings => rings.flatten.map fun c => (form, c)
  | .collection _ _ items => reportedOfItems items

/-- The coordinates that are reported of the items of a collection. -/
def reportedOfItems : List Tree → List (Form × Coordinate)
  | [] => []
  | item :: items => item.reported ++ reportedOfItems items

end

theorem mem_reportedOfItems {items : List Tree} {p : Form × Coordinate} :
    p ∈ reportedOfItems items ↔ ∃ item ∈ items, p ∈ item.reported := by
  induction items with
  | nil => simp [reportedOfItems]
  | cons item items ih => simp [reportedOfItems, ih]

/-- A coordinate that is reported is told with what its own node declares. -/
def told (p : Form × Coordinate) : Coordinate := p.1.told p.2

mutual

/-- **The coordinates told of a tree** are those that are reported. -/
theorem told_events (outer : Int32) : ∀ t : Tree,
    coordinatesOf (t.events outer) = t.reported.map told
  | .point form position => by
      rw [events, reported]
      simp only [Form.isEmpty_told]
      split <;> rfl
  | .lineString form path => by
      rw [events, reported, List.map_map]
      exact coordinatesOf_pathEvents form path
  | .polygon form [] => by
      rw [events, reported]
      rfl
  | .polygon form (ring :: rings) => by
      rw [events, reported, List.map_map, List.flatten_cons, List.map_append]
      show coordinatesOf (form.pathEvents ring ++ form.innerEvents rings ++ [.endPolygon]) = _
      rw [coordinatesOf_append, coordinatesOf_append, coordinatesOf_pathEvents,
        coordinatesOf_innerEvents]
      exact List.append_nil _
  | .collection form c items => by
      rw [events, reported]
      show coordinatesOf (eventsOfItems _ _ 0 items ++ [.endCollection c]) = _
      rw [coordinatesOf_append, told_eventsOfItems]
      exact List.append_nil _

theorem told_eventsOfItems (outer : Int32) (total index : Nat) : ∀ items : List Tree,
    coordinatesOf (eventsOfItems outer total index items) = (reportedOfItems items).map told
  | [] => rfl
  | item :: items => by
      rw [eventsOfItems, reportedOfItems, List.map_append]
      show coordinatesOf (item.events outer ++ [.endItem index total none] ++ _) = _
      rw [coordinatesOf_append, coordinatesOf_append, told_events outer item,
        told_eventsOfItems outer total (index + 1) items]
      exact congrArg (· ++ _) (List.append_nil _)

end

/-- Some coordinate that is reported belongs to a node that declares the dimension, and has a number
there. -/
def Shows (t : Tree) (dim : Dimension) : Prop :=
  ∃ p ∈ t.reported, p.1.declares dim = true ∧ (p.2.ordinate dim).isNaN = false

instance (t : Tree) (dim : Dimension) : Decidable (t.Shows dim) :=
  inferInstanceAs (Decidable (∃ p ∈ t.reported, _))

theorem shows_collection {form : Form} {c : Collection} {items : List Tree} {dim : Dimension} :
    (collection form c items).Shows dim ↔ ∃ item ∈ items, item.Shows dim := by
  simp only [Shows, reported, mem_reportedOfItems]
  constructor
  · rintro ⟨p, ⟨item, hitem, hp⟩, hshows⟩
    exact ⟨item, hitem, p, hp, hshows⟩
  · rintro ⟨item, hitem, p, hp, hshows⟩
    exact ⟨p, ⟨item, hitem, hp⟩, hshows⟩

end Tree

/-! ### The dimensions that are met -/

namespace Extent

/-- Only coordinates have a part in the dimensions. -/
theorem tellAll_eq_foldl (events : List Event) (x : Extent) :
    target.tellAll events x = (coordinatesOf events).foldl (fun x c => x.add c) x := by
  induction events generalizing x with
  | nil => rfl
  | cons e events ih =>
    rw [Target.tellAll_cons, ih]
    cases e <;> rfl

theorem has_foldl (cs : List Coordinate) (x : Extent) (dim : Dimension) :
    (cs.foldl (fun x c => x.add c) x).has dim = true ↔
      x.has dim = true ∨ ∃ c ∈ cs, (c.ordinate dim).isNaN = false := by
  induction cs generalizing x with
  | nil => simp
  | cons c cs ih => simp [ih, has_add, or_assoc]

/-- **The dimensions met in a tree** are those that it shows. -/
theorem has_tellAll (outer : Int32) (t : Tree) (dim : Dimension) :
    (target.tellAll (t.events outer) .start).has dim = true ↔ t.Shows dim := by
  have hnone : Extent.start.has dim = false := by cases dim <;> rfl
  rw [tellAll_eq_foldl, Tree.told_events, has_foldl, hnone]
  simp only [Bool.false_eq_true, false_or, List.mem_map, exists_exists_and_eq_and]
  refine exists_congr fun p => and_congr_right fun _ => ?_
  exact p.1.isNaN_told p.2 dim

end Extent

namespace Geometry

/-- **The dimensions of a geometry are minimal.**  Bytes are accepted that are the form of some
valid tree.  For each tree of this form, the coordinates that are told are those that the tree
reports, whatever they belong to and however deep it stands, each with the ordinates that its own
node declares.  The dimensions of the bytes are Z, M, both or neither, and have one of them if and
only if some reported coordinate belongs to a node that declares it and has a number there.
Dimensions that are NaN throughout are not among them, nor those of a point without a position,
which is not reported.  In a collection, each item adds its own: told to a separate state for every
item, these states have what the items show, and the dimensions of the whole are those of all of
them. -/
theorem dimensions_minimal {bytes : List UInt8}
    (haccepted : (parse Recorder.flat bytes (.start ())).1 = .ok ()) :
    (∃ tree : Tree, tree.Valid ∧ tree.bytes = bytes) ∧
      ∀ tree : Tree, tree.Valid → tree.bytes = bytes →
        coordinatesOf (parse Recorder.flat bytes (.start ())).2.events =
            tree.reported.map Tree.told ∧
          ∃ d, dimensions bytes = .ok d ∧ d = .ofFlags d.hasZ d.hasM ∧
            (∀ dim, d.has dim = true ↔ tree.Shows dim) ∧
            ∀ form c items, tree = .collection form c items →
              ∃ extents : List Extent,
                parse (Extent.target.itemwise .start) bytes (.whole []) =
                    (.ok (), .whole extents) ∧
                  List.Forall₂ (fun (item : Tree) (e : Extent) =>
                    ∀ dim, e.has dim = true ↔ item.Shows dim) items extents ∧
                  ∀ dim, d.has dim = true ↔ ∃ e ∈ extents, e.has dim = true := by
  obtain ⟨tree, hvalid, hbytes, -⟩ :=
    (parse_eq_ok_iff Recorder.flat_isFlat).mp (Prod.ext haccepted rfl)
  refine ⟨⟨tree, hvalid, hbytes⟩, fun tree hvalid hbytes => ⟨?_, ?_⟩⟩
  · rw [events_flat hvalid hbytes, Tree.told_events]
  · let met := Extent.target.tellAll (tree.events 0) .start
    have hflags : met.dimensions = .ofFlags met.dimensions.hasZ met.dimensions.hasM := by
      simp [Extent.dimensions]
    have hshows : ∀ dim, met.dimensions.has dim = true ↔ tree.Shows dim := fun dim => by
      rw [Extent.has_dimensions]
      exact Extent.has_tellAll 0 tree dim
    have hread : dimensions bytes = .ok met.dimensions :=
      dimensions_eq_ok_iff.mpr ⟨tree, hvalid, hbytes, rfl⟩
    refine ⟨met.dimensions, hread, hflags, hshows, ?_⟩
    rintro form c items rfl
    refine ⟨_, hbytes ▸ parse_itemwise isFlat_extent hvalid, ?_, fun dim => ?_⟩
    · exact List.forall₂_map_right_iff.mpr (List.forall₂_same.mpr fun item _ dim =>
        Extent.has_tellAll _ item dim)
    · rw [hshows, Tree.shows_collection]
      simp only [List.mem_map, exists_exists_and_eq_and, Extent.has_tellAll]

/-- Three items that declare different dimensions: a point with Z and without a position, a line
string with Z that is NaN throughout, and a polygon with M, which only its hole has. -/
def declared : Tree :=
  .collection { Form.plain with srid := some 4326 } .geometryCollection
    [.point { Form.plain with zFlag := true } ⟨.nan, .nan, .zero, .nan⟩,
      .lineString { Form.plain with order := .little, zOffset := true }
        [⟨.zero, .zero, .nan, .zero⟩, ⟨.zero, .ofBits 0x3ff0000000000000, .nan, .zero⟩],
      .polygon { Form.plain with mOffset := true }
        [[⟨.zero, .zero, .zero, .nan⟩], [⟨.zero, .zero, .zero, .ofBits 0x4008000000000000⟩]]]

theorem dimensions_minimal_declared :
    (parse Recorder.flat declared.bytes (.start ())).1 = .ok () ∧ declared.Valid ∧
      ∃ d, dimensions declared.bytes = .ok d ∧ d.hasZ = false ∧ d.hasM = true ∧
        ∃ extents : List Extent,
          parse (Extent.target.itemwise .start) declared.bytes (.whole []) =
              (.ok (), .whole extents) ∧
            (∃ e ∈ extents, e.m = true) ∧ ∀ e ∈ extents, e.z = false := by
  have accepted : (parse Recorder.flat declared.bytes (.start ())).1 = .ok () := by decide +kernel
  have valid : declared.Valid := by
    refine ⟨?_, by decide⟩
    simp [declared, Tree.WellFormed, Tree.WellFormedItems, Tree.AgreesWith, Tree.HasKind, Tree.form,
      Form.plain, Tree.Countable, Collection.itemKind?, UInt32.size]
  obtain ⟨-, d, hd, -, hshows, hitems⟩ := (dimensions_minimal accepted).2 declared valid rfl
  obtain ⟨extents, hextents, -, hboth⟩ := hitems _ _ _ rfl
  have hz : d.has .z = false := by
    rw [Bool.eq_false_iff, Ne, hshows]
    decide +kernel
  have hm : d.has .m = true := (hshows .m).mpr (by decide +kernel)
  refine ⟨accepted, valid, d, hd, hz, hm, extents, hextents, (hboth .m).mp hm, fun e he => ?_⟩
  by_contra hmet
  rw [Bool.not_eq_false] at hmet
  rw [(hboth .z).mpr ⟨e, he, hmet⟩] at hz
  cases hz

end Geometry

end GeometryIndex

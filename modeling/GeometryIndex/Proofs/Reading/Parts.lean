import GeometryIndex.Proofs.Reading.Header
import GeometryIndex.Proofs.Reading.Telling

/-!
# Reading — the parts of a geometry

What the walk over each part accepts and tells: a point, the coordinates of a sequence, a ring, the
rings of a polygon, and the items of a collection.  Each part is stated for the header of a form
(`Form.asHeader`), and in the terms of the tree whose part it is.

The mutual functions on trees and lists of trees are first brought into the shape of the repetition
they describe: `Tree.bytesOfItems_eq`, `Tree.eventsOfItems_eq`, `Tree.wellFormedItems_iff`,
`Tree.levelsOfItems_le_iff`.
-/

namespace GeometryIndex

universe u

/-! ### Lists of trees -/

namespace Tree

theorem bytesOfItems_eq (items : List Tree) : bytesOfItems items = items.flatMap bytes := by
  induction items with
  | nil => rfl
  | cons item items ih => rw [bytesOfItems, ih, List.flatMap_cons]

theorem eventsOfItems_eq (outer : Int32) (total index : Nat) (items : List Tree) :
    eventsOfItems outer total index items = (items.zipIdx index).flatMap fun p =>
      .item p.2 total :: (p.1.events outer ++ [.endItem p.2 total none]) := by
  induction items generalizing index with
  | nil => rfl
  | cons item items ih => simp [eventsOfItems, ih]

theorem wellFormedItems_iff {outer : Int32} {expected : Option Kind} {items : List Tree} :
    WellFormedItems outer expected items ↔
      ∀ item ∈ items, item.WellFormed (some outer) ∧ item.HasKind expected := by
  induction items with
  | nil => simp [WellFormedItems]
  | cons item items ih =>
    simp only [WellFormedItems, ih, List.forall_mem_cons]
    exact ⟨fun ⟨hk, hw, hs⟩ => ⟨⟨hw, hk⟩, hs⟩, fun ⟨⟨hw, hk⟩, hs⟩ => ⟨hk, hw, hs⟩⟩

theorem levelsOfItems_le_iff {items : List Tree} {n : Nat} :
    levelsOfItems items ≤ n ↔ ∀ item ∈ items, item.levels ≤ n := by
  induction items with
  | nil => simp [levelsOfItems]
  | cons item items ih => rw [levelsOfItems, Nat.max_le, ih, List.forall_mem_cons]

theorem levels_pos (t : Tree) : 0 < t.levels := by
  cases t <;> simp [levels]

end Tree

/-! ### Sizes -/

namespace Form

theorem length_double (form : Form) (x : Double) : (form.double x).length = 8 :=
  form.order.length_encode 8 _

theorem length_header_ge (form : Form) (kind : Kind) :
    Geometry.leastItem ≤ (form.header kind).length := by
  simp [header, word, Geometry.leastItem]

theorem length_coordinate (form : Form) (kind : Kind) (outer : Option Int32) (c : Coordinate) :
    (form.coordinate c).length = (form.asHeader kind outer).coordinateSize := by
  unfold coordinate Header.coordinateSize asHeader
  cases form.hasZ <;> cases form.hasM <;> simp [length_double]

theorem coordinateSize_pos (h : Header) : 0 < h.coordinateSize := by
  unfold Header.coordinateSize
  omega

theorem length_path_ge (form : Form) (cs : List Coordinate) :
    Geometry.leastRing ≤ (form.path cs).length := by
  simp [path, word, Geometry.leastRing]

end Form

/-- Elements of at least `size` bytes each take so much together. -/
theorem length_flatMap_ge {α : Type} {bytes : α → List UInt8} {size : Nat} {as : List α}
    (h : ∀ a ∈ as, size ≤ (bytes a).length) : as.length * size ≤ (as.flatMap bytes).length := by
  induction as with
  | nil => simp
  | cons a as ih =>
    have ha := h a List.mem_cons_self
    have has := ih fun b hb => h b (List.mem_cons_of_mem a hb)
    rw [List.flatMap_cons, List.length_append, List.length_cons, Nat.add_mul, Nat.one_mul]
    omega

/-- What does not depend on where an element stands. -/
theorem flatMap_zipIdx_fst {α β : Type} (f : α → List β) (start : Nat) (as : List α) :
    ((as.zipIdx start).flatMap fun p => f p.1) = as.flatMap f := by
  have h : ((as.zipIdx start).map Prod.fst).flatMap f = (as.zipIdx start).flatMap fun p => f p.1 :=
    List.flatMap_map _ _ _
  rw [← h, List.zipIdx_map_fst]

theorem Tree.length_bytes_ge (t : Tree) : Geometry.leastItem ≤ t.bytes.length := by
  cases t with
  | point form _ | lineString form _ | polygon form _ | collection form _ _ =>
    simp only [bytes, List.append_assoc, List.length_append]
    exact Nat.le_trans (form.length_header_ge _) (Nat.le_add_right _ _)

namespace Geometry

open Walk

variable {σ : Type u} {t : Target σ} {form : Form} {outer : Option Int32}

/-! ### Points and paths -/

/-- One coordinate, and what is told of it. -/
theorem coordinate_reads (t : Target σ) (form : Form) (kind : Kind) (outer : Option Int32)
    (told : Coordinate → List Event) :
    (Walk.read (form.asHeader kind outer).readCoordinate
      fun c => .tell (t.tellAll (told c))).Reads t (fun _ => True) form.coordinate
        fun c => told (form.told c) := by
  intro input state rest state'
  simp only [read_eq_ok_iff, Header.readCoordinate_eq_ok_iff, tell_eq_ok_iff]
  constructor
  · rintro ⟨_, mid, ⟨written, hpass, rfl⟩, rfl, hstate⟩
    exact ⟨written, trivial, hpass, hstate⟩
  · rintro ⟨written, -, hpass, hstate⟩
    exact ⟨_, rest, ⟨written, hpass, rfl⟩, rfl, hstate⟩

theorem walkPoint_reads :
    (walkPoint t (form.asHeader .point outer)).Reads t (fun _ => True) form.coordinate
      fun position => (Tree.point form position).events (outer.getD 0) := by
  have body := coordinate_reads t form .point outer
    fun c => if c.isEmpty then [] else [.coordinate c 0 1]
  have walks : (fun c : Coordinate => if c.isEmpty then Walk.tell id
        else Walk.tell (t.addCoordinate c 0 1)) =
      fun c => Walk.tell (t.tellAll (if c.isEmpty then [] else [.coordinate c 0 1])) := by
    funext c
    split <;> rfl
  unfold walkPoint
  rw [walks]
  refine (body.tell_andThen (.point (form.asHeader .point outer).srid)).congr (by simp)
    (fun _ _ => rfl) fun position _ => ?_
  rw [Tree.events]
  rfl

theorem walkCoordinates_reads (kind : Kind) (total : Nat) :
    (walkCoordinates t (form.asHeader kind outer) total).Reads t (fun path => path.length = total)
      (fun path => path.flatMap form.coordinate) form.pathEvents := by
  have each := Reads.each
    (fun index => coordinate_reads t form kind outer fun c => [.coordinate c index total]) 0 total
  refine each.congr (by simp) (fun _ _ => rfl) fun path h => ?_
  rw [Form.pathEvents, List.mapIdx_eq_zipIdx_map, List.map_eq_flatMap, h.1]

theorem length_coordinates_ge (form : Form) (kind : Kind) (outer : Option Int32)
    (path : List Coordinate) : path.length * (form.asHeader kind outer).coordinateSize ≤
      (path.flatMap form.coordinate).length :=
  length_flatMap_ge fun c _ => Nat.le_of_eq (form.length_coordinate kind outer c).symm

/-- A counted path after an event that says how long it is. -/
theorem path_reads (t : Target σ) (form : Form) (kind : Kind) (outer : Option Int32)
    (e : Nat → Event) :
    (Walk.read (Read.count (form.asHeader kind outer).order
        (form.asHeader kind outer).coordinateSize) fun n =>
      .andThen (.tell (t.tell (e n))) (walkCoordinates t (form.asHeader kind outer) n)).Reads t
        (fun path => Tree.Countable path.length) form.path
        fun path => e path.length :: form.pathEvents path := by
  refine (Reads.count List.length (Form.coordinateSize_pos _) (fun n => ?_) fun path _ =>
    length_coordinates_ge form kind outer path).congr (fun path => (and_true _).symm.to_iff)
      (fun _ _ => rfl) fun _ _ => rfl
  refine ((walkCoordinates_reads kind n).tell_andThen (e n)).congr (by simp) (fun _ _ => rfl)
    fun path h => ?_
  rw [h]

theorem walkLineString_reads :
    (walkLineString t (form.asHeader .lineString outer)).Reads t
      (fun path => Tree.Countable path.length) form.path
      fun path => (Tree.lineString form path).events (outer.getD 0) :=
  (path_reads t form .lineString outer (.lineString (form.asHeader .lineString outer).srid)).congr
    (fun _ => Iff.rfl) (fun _ _ => rfl) fun _ _ => by rw [Tree.events]; rfl

/-! ### Rings -/

theorem walkInnerRing_reads (t : Target σ) (form : Form) (outer : Option Int32) :
    (walkInnerRing t (form.asHeader .polygon outer)).Reads t
      (fun ring => Tree.Countable ring.length) form.path
      fun ring => .innerRing ring.length :: form.pathEvents ring :=
  path_reads t form .polygon outer .innerRing

/-- The outer ring, and then the inner ones. -/
theorem outerRing_reads (inner : Nat) :
    (Walk.read (Read.count (form.asHeader .polygon outer).order
        (form.asHeader .polygon outer).coordinateSize) fun n =>
      .andThen (.tell (t.startPolygon (form.asHeader .polygon outer).srid inner n)) <|
        .andThen (walkCoordinates t (form.asHeader .polygon outer) n) <|
          .andThen (.each (fun _ => walkInnerRing t (form.asHeader .polygon outer)) 0 inner)
            (.tell t.endPolygon)).Reads t
      (fun p : List Coordinate × List (List Coordinate) => p.1.length < UInt32.size ∧
        p.2.length = inner ∧ ∀ ring ∈ p.2, Tree.Countable ring.length)
      (fun p => form.path p.1 ++ p.2.flatMap form.path)
      fun p => (Tree.polygon form (p.1 :: p.2)).events (outer.getD 0) := by
  have counted : (fun p : List Coordinate × List (List Coordinate) =>
        form.path p.1 ++ p.2.flatMap form.path) = fun p =>
      form.word p.1.length ++ (p.1.flatMap form.coordinate ++ p.2.flatMap form.path) :=
    funext fun _ => List.append_assoc _ _ _
  rw [counted]
  refine Reads.count (fun p : List Coordinate × List (List Coordinate) => p.1.length)
    (Form.coordinateSize_pos _) (fun n => ?_) fun p _ => ?_
  · have rings := (Reads.each (fun _ => walkInnerRing_reads t form outer) 0 inner).andThen_tell
      .endPolygon
    refine (((walkCoordinates_reads .polygon n).andThen rings).tell_andThen
      (.polygon (form.asHeader .polygon outer).srid inner n)).congr (fun _ => Iff.rfl)
      (fun _ _ => rfl) fun p h => ?_
    rw [Tree.events, h.1, h.2.1, Form.innerEvents, ← flatMap_zipIdx_fst _ 0 p.2]
    simp only [List.append_assoc]
    rfl
  · rw [List.length_append]
    exact Nat.le_trans (length_coordinates_ge form .polygon outer p.1) (Nat.le_add_right _ _)

theorem walkPolygon_reads :
    (walkPolygon t (form.asHeader .polygon outer)).Reads t
      (fun rings => Tree.Countable rings.length ∧ ∀ ring ∈ rings, Tree.Countable ring.length)
      (fun rings => form.word rings.length ++ rings.flatMap form.path)
      fun rings => (Tree.polygon form rings).events (outer.getD 0) := by
  refine Reads.count List.length (by decide) (fun n => ?_) fun rings _ =>
    length_flatMap_ge fun ring _ => form.length_path_ge ring
  cases n with
  | zero =>
    refine (Reads.tell [.polygon (form.asHeader .polygon outer).srid 0 0]).map (fun _ => [])
      (fun rings => ?_) (by simp) fun _ _ => by rw [Tree.events]; rfl
    rw [List.length_eq_zero_iff]
    exact ⟨fun ⟨h, _⟩ => ⟨(), trivial, h.symm⟩, fun ⟨_, _, h⟩ => ⟨h.symm, h ▸ by simp⟩⟩
  | succ inner =>
    refine (outerRing_reads inner).map (fun p => p.1 :: p.2) (fun rings => ?_) (by simp)
      fun _ _ => rfl
    cases rings with
    | nil => simp
    | cons ring rings =>
      simp only [List.length_cons, Nat.add_right_cancel_iff, List.forall_mem_cons, Prod.exists,
        List.cons.injEq]
      constructor
      · rintro ⟨hlength, hring, hrings⟩
        exact ⟨ring, rings, ⟨hring, hlength, hrings⟩, rfl, rfl⟩
      · rintro ⟨_, _, ⟨hring, hlength, hrings⟩, rfl, rfl⟩
        exact ⟨hlength, hring, hrings⟩

/-! ### Items -/

/-- For a target that separates no items, an item stands between two events. -/
theorem walkItem_eq (flat : t.IsFlat) (item : Walk σ) (total index : Nat) :
    walkItem t item total index =
      .andThen (.tell (t.tell (.item index total)))
        (.andThen item (.tell (t.tell (.endItem index total none)))) := by
  funext input state
  have own := flat index total state
  rw [tell_andThen]
  unfold walkItem
  cases h : t.startItem index total state with
  | mk after separate =>
    rw [h] at own
    cases own
    simp only [Target.tell, h]

theorem walkCollection_reads (flat : t.IsFlat) {c : Collection} {item : Walk σ}
    {Fits : Tree → Prop}
    (h : item.Reads t Fits Tree.bytes
      fun tree => tree.events (form.asHeader (.collection c) outer).srid) :
    (walkCollection t (form.asHeader (.collection c) outer) c item).Reads t
      (fun items => Tree.Countable items.length ∧ ∀ tree ∈ items, Fits tree)
      (fun items => form.word items.length ++ Tree.bytesOfItems items)
      fun items => (Tree.collection form c items).events (outer.getD 0) := by
  unfold walkCollection
  rw [funext fun n => funext fun index => walkItem_eq flat item n index]
  rw [funext Tree.bytesOfItems_eq]
  refine Reads.count List.length (by decide) (fun n => ?_) fun items _ =>
    length_flatMap_ge fun tree _ => tree.length_bytes_ge
  have items := Reads.each (fun index => (h.andThen_tell (.endItem index n none)).tell_andThen
    (.item index n)) 0 n
  refine ((items.andThen_tell (.endCollection c)).tell_andThen (.collection c _ n)).congr (by simp)
    (fun _ _ => rfl) fun trees hn => ?_
  rw [Tree.events, Tree.eventsOfItems_eq, hn.1]
  rfl

end Geometry

end GeometryIndex

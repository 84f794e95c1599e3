import GeometryIndex.Proofs.Envelopes.Joins
import GeometryIndex.Proofs.Reading.Itemwise

/-!
# Envelopes — the envelope of a collection

The envelope of a collection is reached through the shells of all its items, one after the other.
It may as well be joined from the envelopes of the items: widening a box to reach a coordinate is
joining it with the box of that coordinate, and joining is associative, bit for bit, as long as the
box in the middle has no NaN (`Box.join_assoc`).  No order of the bounds and no canonical form is
needed for that: of equal bounds both ways keep the first one.

* `Envelope.foldl_reach_eq_join`: reaching coordinates from a box is joining it with their envelope;
* `Envelope.foldl_join_around`: hence joining the envelopes of items reaches all their shells;
* `Envelope.collection_joins_items`: hence the envelope of a collection is that of its items joined.
-/

namespace GeometryIndex

/-! ### Joining is associative -/

namespace Box

variable {f : Format} {x y z : Binary f} {a b c : Box f}

theorem lower_assoc (hy : y.isNaN = false) : lower x (lower y z) = lower (lower x y) z := by
  unfold lower
  cases hx : x.isNaN <;> cases hz : z.isNaN <;> grind [Binary.below_iff]

theorem upper_assoc (hy : y.isNaN = false) : upper x (upper y z) = upper (upper x y) z := by
  unfold upper
  cases hx : x.isNaN <;> cases hz : z.isNaN <;> grind [Binary.below_iff]

/-- The box in the middle is the one that is both compared with and copied from. -/
theorem union_assoc (hb : b.IsNumeric) : a.union (b.union c) = (a.union b).union c := by
  unfold union
  rw [lower_assoc hb.minX, upper_assoc hb.maxX, lower_assoc hb.minY, upper_assoc hb.maxY]

theorem join_assoc {p q r : Option (Box f)} (hq : ∀ b ∈ q, b.IsNumeric) :
    join p (join q r) = join (join p q) r := by
  cases p with
  | none => cases q <;> cases r <;> rfl
  | some a =>
    cases q with
    | none => cases r <;> rfl
    | some b =>
      cases r with
      | none => rfl
      | some c => exact congrArg some (union_assoc (hq b rfl))

end Box

/-! ### Coordinates that are numbers -/

/-- Neither X nor Y is a NaN. -/
def Coordinate.IsPlaced (c : Coordinate) : Prop := c.x.isNaN = false ∧ c.y.isNaN = false

namespace Envelope

theorem isNumeric_point {c : Coordinate} (h : c.IsPlaced) :
    Box.IsNumeric (.point c.x c.y : Envelope) :=
  ⟨h.1, h.1, h.2, h.2⟩

theorem reach_eq_join (e : Option Envelope) (c : Coordinate) :
    reach e c = Box.join e (some (.point c.x c.y)) := by
  cases e <;> rfl

/-- **Reaching coordinates from an envelope** is joining it with the envelope of the coordinates. -/
theorem foldl_reach_eq_join (e : Option Envelope) {cs : List Coordinate}
    (h : ∀ c ∈ cs, c.IsPlaced) : cs.foldl reach e = Box.join e (around cs) := by
  induction cs generalizing e with
  | nil => cases e <;> rfl
  | cons c cs ih =>
    obtain ⟨hc, hcs⟩ := List.forall_mem_cons.mp h
    have middle : ∀ b ∈ some (Box.point c.x c.y), Box.IsNumeric b := by
      rintro _ ⟨⟩
      exact isNumeric_point hc
    calc
      (c :: cs).foldl reach e = cs.foldl reach (reach e c) := rfl
      _ = Box.join (Box.join e (some (.point c.x c.y))) (around cs) := by
        rw [ih _ hcs, reach_eq_join]
      _ = Box.join e (Box.join (some (.point c.x c.y)) (around cs)) := (Box.join_assoc middle).symm
      _ = Box.join e (around (c :: cs)) := by rw [← ih _ hcs]; rfl

/-- **The envelopes of items, joined in order**, reach what the shells of the items reach. -/
theorem foldl_join_around (e : Option Envelope) {items : List Tree}
    (h : ∀ c ∈ Tree.shellsOfItems items, c.IsPlaced) :
    (items.map fun item => around item.shells).foldl Box.join e =
      (Tree.shellsOfItems items).foldl reach e := by
  induction items generalizing e with
  | nil => rfl
  | cons item items ih =>
    rw [Tree.shellsOfItems, List.forall_mem_append] at h
    rw [Tree.shellsOfItems, List.foldl_append, foldl_reach_eq_join e h.1]
    exact ih _ h.2

/-- **The envelope of a collection is the union of those of its items.**  Bytes are accepted that
are the form of some valid tree.  Let such a tree be a collection whose shells have numbers for X
and Y.  Read with a fresh envelope for each of its items, the bytes give the envelope of each item
alone, absent where it has no shells, and these joined in order from nothing are, bit for bit, the
envelope that is read from the whole. -/
theorem collection_joins_items {bytes : List UInt8}
    (haccepted : (Geometry.parse Recorder.flat bytes (.start ())).1 = .ok ()) :
    (∃ tree : Tree, tree.Valid ∧ tree.bytes = bytes) ∧
      ∀ form c items, (Tree.collection form c items).Valid →
        (Tree.collection form c items).bytes = bytes →
        (∀ p ∈ (Tree.collection form c items).shells, p.IsPlaced) →
        ∃ shells : List Shell,
          Geometry.parse (Shell.target.itemwise .start) bytes (.whole []) =
              (.ok (), .whole shells) ∧
            shells.map Shell.envelope = items.map (fun item => around item.shells) ∧
            Geometry.envelope bytes = .ok ((shells.map Shell.envelope).foldl Box.join none) := by
  obtain ⟨tree, hvalid, hbytes, -⟩ :=
    (Geometry.parse_eq_ok_iff Recorder.flat_isFlat).mp (Prod.ext haccepted rfl)
  refine ⟨⟨tree, hvalid, hbytes⟩, fun form c items valid hbytes placed => ?_⟩
  have gathered : ((items.map fun item => Shell.target.tellAll
      (item.events ((Tree.collection form c items).srid 0)) .start).map Shell.envelope) =
        items.map fun item => around item.shells := by
    rw [List.map_map]
    exact List.map_congr_left fun item _ => Shell.envelope_tellAll _ item .start
  rw [Tree.shells] at placed
  refine ⟨_, ?_, gathered, ?_⟩
  · rw [← hbytes]
    exact Geometry.parse_itemwise Shell.isFlat_target valid
  · rw [gathered, foldl_join_around none placed]
    refine Geometry.envelope_eq_ok_iff.mpr ⟨_, valid, hbytes, ?_⟩
    rw [Tree.shells]
    rfl

/-- A point without a position, the polygon around (3, 5) with a hole that reaches further, two
points in a collection of their own, one of them without a position, and two line strings: one from
(-0, 2) and one without coordinates. -/
def gathered : Tree :=
  .collection { Form.plain with srid := some 4326 } .geometryCollection
    [.point .plain (corner .nan .nan),
      .polygon { Form.plain with zFlag := true }
        [[corner (.ofBits 0x4008000000000000) (.ofBits 0x4014000000000000)],
          [corner (.ofBits 0x4022000000000000) (.ofBits 0x4022000000000000)]],
      .collection .plain .multiPoint
        [.point .plain (corner (.ofBits 0x3ff0000000000000) (.ofBits 0xbff0000000000000)),
          .point { Form.plain with order := .little } (corner .nan .nan)],
      .lineString .plain [corner .negativeZero (.ofBits 0x4000000000000000)],
      .lineString .plain []]

theorem collection_joins_items_gathered :
    gathered.Valid ∧ (∀ p ∈ gathered.shells, p.IsPlaced) ∧
      ∃ shells : List Shell,
        Geometry.parse (Shell.target.itemwise .start) gathered.bytes (.whole []) =
            (.ok (), .whole shells) ∧
          shells.map Shell.envelope =
            [none, some (.point (.ofBits 0x4008000000000000) (.ofBits 0x4014000000000000)),
              some (.point (.ofBits 0x3ff0000000000000) (.ofBits 0xbff0000000000000)),
              some (.point .zero (.ofBits 0x4000000000000000)), none] ∧
          Geometry.envelope gathered.bytes =
            .ok (some ⟨.zero, .ofBits 0x4008000000000000, .ofBits 0xbff0000000000000,
              .ofBits 0x4014000000000000⟩) := by
  have accepted : (Geometry.parse Recorder.flat gathered.bytes (.start ())).1 = .ok () := by
    decide +kernel
  have valid : gathered.Valid := by
    refine ⟨?_, by decide⟩
    simp [gathered, Tree.WellFormed, Tree.WellFormedItems, Tree.AgreesWith, Tree.HasKind,
      Tree.form, Tree.kind, Form.plain, Tree.Countable, Collection.itemKind?, UInt32.size]
  have placed : ∀ p ∈ gathered.shells, p.IsPlaced := by
    unfold Coordinate.IsPlaced
    decide +kernel
  obtain ⟨shells, hparse, hitems, henvelope⟩ :=
    (collection_joins_items accepted).2 _ _ _ valid rfl placed
  refine ⟨valid, placed, shells, hparse, ?_, ?_⟩
  · rw [hitems]
    decide +kernel
  · rw [henvelope, hitems]
    decide +kernel

end Envelope

end GeometryIndex

import GeometryIndex.Proofs.Reading.Agreement
import GeometryIndex.Proofs.Reading.Values

/-!
# Reading — the ways to the metadata

The envelope, the dimensions and the SRID of bytes can be had separately, the first two in one walk,
and all of them as a geometry value.  Whether the bytes are accepted does not depend on the way, nor
does the fault (`Geometry.refused`).  If they are, every way tells of the one tree that they are the
form of.

* `Tree.srid_of_mem_events`: all starts in a well-formed tree are told with the SRID of its root;
* `Geometry.metadata_paths_agree`: hence all ways agree.
-/

namespace GeometryIndex

/-! ### The SRID of the events -/

namespace Event

/-- The SRID that the start of a geometry is told with. -/
def srid? : Event → Option Int32
  | .point srid => some srid
  | .lineString srid _ => some srid
  | .polygon srid _ _ => some srid
  | .collection _ srid _ => some srid
  | _ => none

end Event

namespace Tree

theorem WellFormed.agrees {outer : Option Int32} {t : Tree} (h : t.WellFormed outer) :
    t.AgreesWith outer := by
  cases t with
  | point form position => rw [WellFormed] at h; exact h
  | lineString form path => rw [WellFormed] at h; exact h.1
  | polygon form rings => rw [WellFormed] at h; exact h.1
  | collection form c items => rw [WellFormed] at h; exact h.1

/-- An item has the SRID of the geometry around it. -/
theorem WellFormed.srid_eq {outer : Int32} {t : Tree} (h : t.WellFormed (some outer)) :
    t.srid outer = outer := by
  rw [srid]
  cases hwritten : t.form.srid with
  | none => rfl
  | some written => exact h.agrees written hwritten outer rfl

theorem srid?_of_mem_pathEvents {form : Form} {path : List Coordinate} :
    ∀ e ∈ form.pathEvents path, e.srid? = none := by
  intro e he
  obtain ⟨c, index, total, rfl⟩ := exists_of_mem_pathEvents he
  rfl

theorem srid?_of_mem_innerEvents {form : Form} {rings : List (List Coordinate)} :
    ∀ e ∈ form.innerEvents rings, e.srid? = none := by
  intro e he
  rcases exists_of_mem_innerEvents he with ⟨points, rfl⟩ | ⟨c, index, total, rfl⟩ <;> rfl

mutual

/-- **Every start in a well-formed tree is told with the SRID of the tree.** -/
theorem srid_of_mem_events (outer : Option Int32) : ∀ t : Tree, t.WellFormed outer →
    ∀ e ∈ t.events (outer.getD 0), ∀ s ∈ e.srid?, s = t.srid (outer.getD 0)
  | .point form position, _, e, he, s, hs => by
      rw [events] at he
      rcases List.mem_cons.mp he with rfl | he
      · exact (Option.some.inj hs).symm
      · split at he
        · cases he
        · cases List.mem_singleton.mp he
          cases hs
  | .lineString form path, _, e, he, s, hs => by
      rw [events] at he
      rcases List.mem_cons.mp he with rfl | he
      · exact (Option.some.inj hs).symm
      · rw [srid?_of_mem_pathEvents e he] at hs
        cases hs
  | .polygon form [], _, e, he, s, hs => by
      rw [events] at he
      cases List.mem_singleton.mp he
      exact (Option.some.inj hs).symm
  | .polygon form (ring :: rings), _, e, he, s, hs => by
      rw [events] at he
      rcases List.mem_cons.mp he with rfl | he
      · exact (Option.some.inj hs).symm
      · simp only [List.mem_append, List.mem_singleton] at he
        rcases he with (he | he) | rfl
        · rw [srid?_of_mem_pathEvents e he] at hs
          cases hs
        · rw [srid?_of_mem_innerEvents e he] at hs
          cases hs
        · cases hs
  | .collection form c items, hformed, e, he, s, hs => by
      rw [WellFormed] at hformed
      rw [events] at he
      rcases List.mem_cons.mp he with rfl | he
      · exact (Option.some.inj hs).symm
      · rcases List.mem_append.mp he with he | he
        · exact srid_of_mem_eventsOfItems _ _ _ _ items hformed.2.2 e he s hs
        · cases List.mem_singleton.mp he
          cases hs

theorem srid_of_mem_eventsOfItems (outer : Int32) (expected : Option Kind) (total index : Nat) :
    ∀ items : List Tree, WellFormedItems outer expected items →
      ∀ e ∈ eventsOfItems outer total index items, ∀ s ∈ e.srid?, s = outer
  | [], _, e, he, s, hs => by cases he
  | item :: items, hformed, e, he, s, hs => by
      rw [WellFormedItems] at hformed
      obtain ⟨-, hitem, hitems⟩ := hformed
      rw [eventsOfItems] at he
      simp only [List.mem_cons, List.mem_append, List.not_mem_nil, or_false] at he
      rcases he with rfl | (he | rfl) | he
      · cases hs
      · exact (srid_of_mem_events (some outer) item hitem e he s hs).trans hitem.srid_eq
      · cases hs
      · exact srid_of_mem_eventsOfItems outer expected total (index + 1) items hitems e he s hs

end

end Tree

/-! ### Bytes that are refused -/

namespace Geometry

theorem isFlat_extent : Extent.target.IsFlat := fun _ _ _ => rfl

theorem dimensions_eq_map (bytes : List UInt8) :
    dimensions bytes = (parse Extent.target bytes .start).1.map fun _ =>
      (parse Extent.target bytes .start).2.dimensions := by
  unfold dimensions
  split <;> next h => rw [h]; rfl

/-- The dimensions of bytes are those of the coordinates that the tree tells. -/
theorem dimensions_eq_ok_iff {bytes : List UInt8} {d : Dimensions} :
    dimensions bytes = .ok d ↔
      ∃ tree : Tree, tree.Valid ∧ tree.bytes = bytes ∧
        d = (Extent.target.tellAll (tree.events 0) .start).dimensions := by
  rw [dimensions_eq_map]
  exact parse_map_eq_ok_iff (g := Extent.dimensions) isFlat_extent

/-- **Bytes that are refused are refused in every way**, with the same fault. -/
theorem refused {bytes : List UInt8} {fault : DecodeFault}
    (h : (parse Recorder.flat bytes (.start ())).1 = .error fault) :
    envelope bytes = .error fault ∧ dimensions bytes = .error fault ∧
      metadata bytes = .error fault ∧ GeometryValue.ofBytes bytes = .error fault := by
  have alike {σ : Type} (t : Target σ) (x : σ) : (parse t bytes x).1 = .error fault :=
    (parse_agree (t.relates_unrelated Recorder.flat) (a := ()) (x := x) (y := .start ()) trivial
      bytes).1.trans h
  have hmetadata : metadata bytes = .error fault := by rw [metadata_eq_map, alike]; rfl
  refine ⟨by rw [envelope_eq_map, alike]; rfl, by rw [dimensions_eq_map, alike]; rfl, hmetadata, ?_⟩
  rw [GeometryValue.ofBytes, hmetadata]
  rfl

/-- Bytes are accepted or refused, and accepted exactly if they are the form of a tree. -/
theorem accepted_or_refused (bytes : List UInt8) :
    ((parse Recorder.flat bytes (.start ())).1 = .ok () ∧
        ∃ tree : Tree, tree.Valid ∧ tree.bytes = bytes) ∨
      ∃ fault, (parse Recorder.flat bytes (.start ())).1 = .error fault := by
  cases hparse : (parse Recorder.flat bytes (.start ())).1 with
  | ok =>
    obtain ⟨tree, hvalid, hbytes, -⟩ :=
      (parse_eq_ok_iff Recorder.flat_isFlat).mp (Prod.ext hparse rfl)
    exact .inl ⟨rfl, tree, hvalid, hbytes⟩
  | error fault => exact .inr ⟨fault, rfl⟩

end Geometry

/-! ### All ways agree -/

/-- The envelope of a value is that of the value as a geometry, and so is the fault if it is none. -/
theorem Value.envelope?_eq (v : Value) :
    v.envelope? = v.geometry?.map fun g => g.bind GeometryValue.envelope := by
  cases v with
  | null | int _ | double _ | varchar _ | geometry _ => rfl
  | binary bytes =>
    show Geometry.envelope bytes =
      (some <$> GeometryValue.ofBytes bytes).map fun g => g.bind GeometryValue.envelope
    rcases Geometry.accepted_or_refused bytes with ⟨-, tree, hvalid, hbytes⟩ | ⟨fault, hfault⟩
    · rw [GeometryValue.ofBytes_eq_ok_iff.mpr ⟨tree, hvalid, hbytes, rfl⟩]
      exact Geometry.envelope_eq_ok_iff.mpr ⟨tree, hvalid, hbytes, rfl⟩
    · obtain ⟨henvelope, -, -, hvalue⟩ := Geometry.refused hfault
      rw [henvelope, hvalue]
      rfl

namespace Geometry

/-- **All ways to the metadata agree.**  One walk for envelope and dimensions answers what the two
separate walks answer, and these are refused with the same fault.  A geometry value can be made of
bytes exactly if they are accepted, and is refused with the same fault if not.  It has the envelope,
the dimensions and the SRID that are read separately, and its SRID is the one that every start of a
geometry is told with, at any depth.  The envelope of a value of whatever type is that of the value
as a geometry, fault included. -/
theorem metadata_paths_agree (bytes : List UInt8) :
    (metadata bytes =
        (envelope bytes).bind fun e => (dimensions bytes).map fun d => (e, d)) ∧
      (∀ fault, envelope bytes = .error fault ↔ dimensions bytes = .error fault) ∧
      ((∃ g, GeometryValue.ofBytes bytes = .ok g) ↔
        (parse Recorder.flat bytes (.start ())).1 = .ok ()) ∧
      (∀ fault, GeometryValue.ofBytes bytes = .error fault ↔
        (parse Recorder.flat bytes (.start ())).1 = .error fault) ∧
      (∀ g, GeometryValue.ofBytes bytes = .ok g →
        envelope bytes = .ok g.envelope ∧ dimensions bytes = .ok g.dimensions ∧
          srid bytes = .ok g.srid ∧
          ∀ e ∈ (parse Recorder.flat bytes (.start ())).2.events, ∀ s ∈ e.srid?, s = g.srid) ∧
      ∀ v : Value, v.envelope? = v.geometry?.map fun g => g.bind GeometryValue.envelope := by
  rcases accepted_or_refused bytes with ⟨hok, tree, hvalid, hbytes⟩ | ⟨fault, hfault⟩
  · have henvelope := envelope_eq_ok_iff.mpr ⟨tree, hvalid, hbytes, rfl⟩
    have hdimensions := dimensions_eq_ok_iff.mpr ⟨tree, hvalid, hbytes, rfl⟩
    have hmetadata := metadata_eq_ok_iff.mpr ⟨tree, hvalid, hbytes, rfl, rfl⟩
    have hvalue := GeometryValue.ofBytes_eq_ok_iff.mpr ⟨tree, hvalid, hbytes, rfl⟩
    have hevents := events_flat hvalid hbytes
    refine ⟨?_, ?_, ?_, ?_, ?_, Value.envelope?_eq⟩
    · rw [henvelope, hdimensions, hmetadata]
      rfl
    · rw [henvelope, hdimensions]
      exact fun fault => iff_of_false nofun nofun
    · exact iff_of_true ⟨_, hvalue⟩ hok
    · rw [hvalue, hok]
      exact fun fault => iff_of_false nofun nofun
    · intro g hg
      obtain rfl := Except.ok.inj (hvalue.symm.trans hg)
      refine ⟨henvelope, hdimensions, ?_, fun e he s hs => ?_⟩
      · rw [← hbytes]
        exact srid_bytes tree
      · rw [hevents] at he
        exact tree.srid_of_mem_events none hvalid.1 e he s hs
  · obtain ⟨henvelope, hdimensions, hmetadata, hvalue⟩ := refused hfault
    refine ⟨?_, ?_, ?_, ?_, ?_, Value.envelope?_eq⟩
    · rw [henvelope, hmetadata]
      rfl
    · rw [henvelope, hdimensions]
      exact fun _ => by rw [Except.error.injEq, Except.error.injEq]
    · rw [hvalue, hfault]
      exact iff_of_false nofun nofun
    · rw [hvalue, hfault]
      exact fun _ => by rw [Except.error.injEq, Except.error.injEq]
    · rw [hvalue]
      exact nofun

/-- The items of the collection are told with its SRID, whether they repeat it or not. -/
theorem metadata_paths_agree_mixed :
    ∃ g : GeometryValue, GeometryValue.ofBytes mixed.bytes = .ok g ∧ g.srid = 4326 ∧
      metadata mixed.bytes = .ok (g.envelope, g.dimensions) ∧
      Event.polygon 4326 0 0 ∈ (parse Recorder.flat mixed.bytes (.start ())).2.events ∧
      ∀ e ∈ (parse Recorder.flat mixed.bytes (.start ())).2.events, ∀ s ∈ e.srid?, s = 4326 := by
  obtain ⟨hboth, -, hmade, -, hvalue, -⟩ := metadata_paths_agree mixed.bytes
  obtain ⟨g, hg⟩ := hmade.mpr rfl
  obtain ⟨henvelope, hdimensions, hsrid, hevents⟩ := hvalue g hg
  have h4326 : g.srid = 4326 := Except.ok.inj (hsrid.symm.trans rfl)
  refine ⟨g, hg, h4326, ?_, ?_, fun e he s hs => (hevents e he s hs).trans h4326⟩
  · rw [hboth, henvelope, hdimensions]
    rfl
  · show _ ∈ [Event.collection .geometryCollection 4326 2, .item 0 2, .point 4326,
      .coordinate _ 0 1, .endItem 0 2 none, .item 1 2, .polygon 4326 0 0, .endItem 1 2 none,
      .endCollection .geometryCollection]
    simp

end Geometry

end GeometryIndex

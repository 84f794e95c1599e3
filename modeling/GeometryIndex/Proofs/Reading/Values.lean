import GeometryIndex.Proofs.Reading.Shells
import GeometryIndex.Value

/-!
# Reading — values from bytes

Bytes can be kept in a column as they are, or as a geometry value that was made of them.  Making the
value reads the bytes twice, once for envelope and dimensions and once for the SRID.  It succeeds
exactly if they are the form of a tree, and keeps what the tree has
(`GeometryValue.ofBytes_eq_ok_iff`).

* `Value.IsMadeOf.envelope?_eq`: hence either way of keeping them has the envelope of the bytes.
-/

namespace GeometryIndex

/-! ### The SRID -/

namespace Tree

/-- The binary form of a tree begins with the header of its root. -/
theorem bytes_eq_header_append (t : Tree) : ∃ body, t.bytes = t.form.header t.kind ++ body := by
  cases t with
  | point form position => exact ⟨_, Tree.bytes.eq_1 form position⟩
  | lineString form path => exact ⟨_, Tree.bytes.eq_2 form path⟩
  | polygon form rings =>
    exact ⟨_, (Tree.bytes.eq_3 form rings).trans (List.append_assoc _ _ _)⟩
  | collection form c items =>
    exact ⟨_, (Tree.bytes.eq_4 form c items).trans (List.append_assoc _ _ _)⟩

end Tree

/-- The SRID of the form of a tree is that of its root. -/
theorem Geometry.srid_bytes (t : Tree) : Geometry.srid t.bytes = .ok (t.srid 0) := by
  obtain ⟨body, hbytes⟩ := t.bytes_eq_header_append
  have hread : Header.read none (.ofBytes t.bytes) =
      .ok (t.form.asHeader t.kind none, ⟨0 + (t.form.header t.kind).length, body⟩) := by
    refine Header.read_eq_ok_iff.mpr ⟨t.form, t.kind, ?_, ⟨hbytes, rfl⟩, rfl⟩
    intro srid _ outer houter
    cases houter
  rw [Geometry.srid, hread]
  rfl

/-! ### Values -/

namespace GeometryValue

/-- **A geometry value is made of bytes** exactly if they are the form of a tree; it keeps the
bytes, and the SRID, envelope and dimensions of the tree. -/
theorem ofBytes_eq_ok_iff {bytes : List UInt8} {g : GeometryValue} :
    ofBytes bytes = .ok g ↔
      ∃ tree : Tree, tree.Valid ∧ tree.bytes = bytes ∧
        g = ⟨bytes, tree.srid 0, Envelope.around tree.shells,
          (Extent.target.tellAll (tree.events 0) .start).dimensions⟩ := by
  constructor
  · intro h
    unfold ofBytes at h
    cases hmetadata : Geometry.metadata bytes with
    | error fault =>
      rw [hmetadata] at h
      cases h
    | ok found =>
      obtain ⟨tree, hvalid, rfl, hfound⟩ := Geometry.metadata_eq_ok_iff.mp hmetadata
      rw [hmetadata, Geometry.srid_bytes] at h
      cases h
      exact ⟨tree, hvalid, rfl, by rw [hfound.1, hfound.2]⟩
  · rintro ⟨tree, hvalid, rfl, rfl⟩
    rw [ofBytes, Geometry.metadata_eq_ok_iff.mpr ⟨tree, hvalid, rfl, rfl, rfl⟩,
      Geometry.srid_bytes]
    rfl

/-- The envelope that was found when the value was made is that of the bytes. -/
theorem envelope_of_ofBytes {bytes : List UInt8} {g : GeometryValue} (h : ofBytes bytes = .ok g) :
    Geometry.envelope bytes = .ok g.envelope := by
  obtain ⟨tree, hvalid, hbytes, rfl⟩ := ofBytes_eq_ok_iff.mp h
  exact Geometry.envelope_eq_ok_iff.mpr ⟨tree, hvalid, hbytes, rfl⟩

/-- Bytes that have an envelope, or none because they are an empty geometry, make a value. -/
theorem exists_ofBytes {bytes : List UInt8} {e : Option Envelope}
    (h : Geometry.envelope bytes = .ok e) :
    ∃ g, ofBytes bytes = .ok g ∧ g.envelope = e := by
  obtain ⟨tree, hvalid, hbytes, rfl⟩ := Geometry.envelope_eq_ok_iff.mp h
  exact ⟨_, ofBytes_eq_ok_iff.mpr ⟨tree, hvalid, hbytes, rfl⟩, rfl⟩

end GeometryValue

namespace Value

/-- A value in which bytes are kept: as they are, or as the geometry made of them. -/
inductive IsMadeOf (bytes : List UInt8) : Value → Prop
  | binary : IsMadeOf bytes (.binary bytes)
  | geometry {g : GeometryValue} (h : GeometryValue.ofBytes bytes = .ok g) :
      IsMadeOf bytes (.geometry g)

/-- **Bytes have one envelope**, however they are kept. -/
theorem IsMadeOf.envelope?_eq {bytes : List UInt8} {v : Value} (h : v.IsMadeOf bytes) :
    v.envelope? = Geometry.envelope bytes := by
  cases h with
  | binary => rfl
  | geometry hmade => exact (GeometryValue.envelope_of_ofBytes hmade).symm

end Value

end GeometryIndex

import GeometryIndex.Proofs.Envelopes.Bounds
import GeometryIndex.Proofs.Reading.Metadata

/-!
# Envelopes — the compact form read back

The compact form of an envelope is the binary form of a valid tree, so it can be read.  What is read
is the envelope in canonical form, provided that its bounds span its axes
(`Envelope.Proper.envelope_compact`); an axis without numbers is kept, since each of the layouts
begins with the lower bounds.

* `Envelope.compact_lossless`: this is so for envelopes that were accepted and for those that were
  read, and the latter come back bit for bit;
* `Envelope.narrow_canonical_iff`: at the precision of a key, the canonical form is the same unless
  a bound is the negative zero.
-/

namespace GeometryIndex.Envelope

variable {e : Envelope} {minX maxX minY maxY : Double}

theorem checked_eq_ok_iff : checked minX maxX minY maxY = .ok e ↔
    minX.atMost maxX = true ∧ minY.atMost maxY = true ∧ e = ⟨minX, maxX, minY, maxY⟩ := by
  unfold checked
  split
  · next h =>
    rw [Bool.and_eq_true] at h
    simp [h, eq_comm]
  · next h =>
    rw [Bool.and_eq_true, not_and] at h
    simp only [reduceCtorEq, false_iff]
    exact fun ⟨hx, hy, _⟩ => h hx hy

/-- The bounds of an envelope that was accepted are in order. -/
theorem atMost_of_checked (h : checked minX maxX minY maxY = .ok e) :
    e.minX.atMost e.maxX = true ∧ e.minY.atMost e.maxY = true := by
  obtain ⟨hx, hy, rfl⟩ := checked_eq_ok_iff.mp h
  exact ⟨hx, hy⟩

/-- Every envelope has a compact form that can be read. -/
theorem valid_tree (e : Envelope) : e.tree.Valid := by
  unfold tree
  split
  · simp [Tree.Valid, Tree.WellFormed, Tree.levels, Tree.AgreesWith, Tree.room]
  · split <;>
      simp [Tree.Valid, Tree.WellFormed, Tree.levels, Tree.AgreesWith, Tree.room, Tree.Countable,
        UInt32.size, ring]

theorem told_corner (x y : Double) :
    Form.plain.told (corner x y) = corner x.canonical y.canonical := rfl

/-- **The shells of the compact form** reach the envelope in canonical form. -/
theorem around_shells_tree (h : e.Proper) :
    around e.tree.shells = some (e.map Binary.canonical) := by
  obtain ⟨hlowX, hhighX, hkeepX⟩ := h.x.choose_canonical Double.one_lt_binade
  obtain ⟨hlowY, hhighY, hkeepY⟩ := h.y.choose_canonical Double.one_lt_binade
  unfold tree
  split
  · next hpoint =>
    obtain ⟨hflatX, hflatY⟩ := (Bool.and_eq_true _ _).mp hpoint
    have hpresent : (corner e.minX.canonical e.minY.canonical).isEmpty = false := by
      simp [Coordinate.isEmpty, corner, Binary.isNaN_canonical Double.one_lt_binade,
        (Binary.equals_iff.mp hflatX).1]
    rw [Tree.shells, told_corner, hpresent]
    simp [around, reach, Box.point, Box.map, corner, Binary.canonical_congr hflatX,
      Binary.canonical_congr hflatY]
  · split
    · rw [Tree.shells]
      show around [corner e.minX.canonical e.minY.canonical,
        corner e.maxX.canonical e.maxY.canonical] = _
      simp [around, reach, Box.point, Box.expand, Box.union, Box.map, corner, hlowX, hhighX, hlowY,
        hhighY]
    · rw [Tree.shells]
      show around [corner e.minX.canonical e.minY.canonical,
        corner e.minX.canonical e.maxY.canonical, corner e.maxX.canonical e.maxY.canonical,
        corner e.maxX.canonical e.minY.canonical, corner e.minX.canonical e.minY.canonical] = _
      simp [around, reach, Box.point, Box.expand, Box.union, Box.map, corner, hlowX, hhighX, hkeepX,
        hlowY, hhighY, hkeepY]

/-- **What is read from the compact form** of an envelope is its canonical form. -/
theorem Proper.envelope_compact (h : e.Proper) :
    Geometry.envelope e.compact = .ok (some (e.map Binary.canonical)) :=
  Geometry.envelope_eq_ok_iff.mpr ⟨e.tree, valid_tree e, rfl, (around_shells_tree h).symm⟩

/-! ### Envelopes that were accepted or read -/

/-- An envelope that was accepted spans its axes. -/
theorem proper_of_checked (h : checked minX maxX minY maxY = .ok e) : e.Proper :=
  ⟨.inl (atMost_of_checked h).1, .inl (atMost_of_checked h).2⟩

theorem envelope_compact (h : checked minX maxX minY maxY = .ok e) :
    Geometry.envelope e.compact = .ok (some (e.map Binary.canonical)) :=
  (proper_of_checked h).envelope_compact

/-- An envelope that was read spans its axes, and is canonical. -/
theorem proper_of_read {bytes : List UInt8} (h : Geometry.envelope bytes = .ok (some e)) :
    e.Proper ∧ e.map Binary.canonical = e := by
  obtain ⟨tree, -, -, haround⟩ := Geometry.envelope_eq_ok_iff.mp h
  obtain ⟨-, -, -, hproper, -, -⟩ := around_eq_some haround.symm
  exact ⟨hproper, ((around_shells tree).2 e haround.symm).2.2⟩

/-! ### What the compact form consists of -/

theorem extent_add_corner (x y : Double) (s : Extent) :
    s.add (Form.plain.told (corner x y)) = s := by
  have hnan : (Binary.nan : Double).isNaN = true := by decide
  simp [Extent.add, Form.told, Form.hasZ, Form.hasM, Form.plain, hnan]

theorem extent_pathEvents {path : List Coordinate} (h : ∀ c ∈ path, ∃ x y, c = corner x y)
    (s : Extent) : Extent.target.tellAll (Form.plain.pathEvents path) s = s := by
  rw [Form.pathEvents, Target.tellAll_mapIdx (fun s c => s.add (Form.plain.told c))
    fun _ _ _ => rfl]
  induction path with
  | nil => rfl
  | cons c path ih =>
    obtain ⟨x, y, rfl⟩ := h c List.mem_cons_self
    rw [List.foldl_cons, extent_add_corner]
    exact ih fun c hc => h c (List.mem_cons_of_mem _ hc)

/-- The compact form tells of no dimensions beyond X and Y. -/
theorem extent_tree (e : Envelope) :
    Extent.target.tellAll (e.tree.events 0) .start = .start := by
  unfold tree
  split
  · rw [Tree.events]
    split
    · rfl
    · exact extent_add_corner _ _ _
  · split <;> rw [Tree.events]
    · have hpath : ∀ c ∈ [corner e.minX e.minY, corner e.maxX e.maxY], ∃ x y, c = corner x y := by
        simp
      exact extent_pathEvents hpath .start
    · have hring : ∀ c ∈ e.ring, ∃ x y, c = corner x y := by simp [ring]
      rw [Target.tellAll_cons, Target.tellAll_append, Target.tellAll_append]
      exact extent_pathEvents hring .start

/-- How long the compact form is, by the number of axes that have one value only. -/
theorem length_compact (e : Envelope) :
    e.compact.length = match e.flatX.toNat + e.flatY.toNat with
      | 2 => 21
      | 1 => 41
      | _ => 93 := by
  cases hx : e.flatX <;> cases hy : e.flatY <;>
    simp [compact, tree, Box.isPoint, Box.isDegenerate, hx, hy, Tree.bytes, Form.header, Form.word,
      Form.path, Form.coordinate, Form.length_double, Form.hasZ, Form.hasM, Form.plain, ring]

theorem srid_tree (e : Envelope) : e.tree.srid 0 = 0 := by
  unfold tree
  split
  · rfl
  · split <;> rfl

/-- **The compact form loses nothing.**  Take an envelope that was accepted from outside, or that was
read from bytes, possibly without numbers on an axis.  What is read from its compact form is the
envelope with each bound in canonical form, which is the envelope itself if it had been read.  The
compact form has no dimensions beyond X and Y and no SRID, and its length says how many axes have
one value only. -/
theorem compact_lossless
    (h : (∃ minX maxX minY maxY, checked minX maxX minY maxY = .ok e) ∨
      ∃ bytes, Geometry.envelope bytes = .ok (some e)) :
    Geometry.envelope e.compact = .ok (some (e.map Binary.canonical)) ∧
      ((∃ bytes, Geometry.envelope bytes = .ok (some e)) → e.map Binary.canonical = e) ∧
      Geometry.dimensions e.compact = .ok .xy ∧ Geometry.srid e.compact = .ok 0 ∧
      e.compact.length =
        match (e.minX.equals e.maxX).toNat + (e.minY.equals e.maxY).toNat with
        | 2 => 21
        | 1 => 41
        | _ => 93 := by
  have hproper : e.Proper := by
    rcases h with ⟨_, _, _, _, hchecked⟩ | ⟨bytes, hread⟩
    · exact proper_of_checked hchecked
    · exact (proper_of_read hread).1
  refine ⟨hproper.envelope_compact, fun ⟨bytes, hread⟩ => (proper_of_read hread).2, ?_, ?_,
    length_compact e⟩
  · refine Geometry.dimensions_eq_ok_iff.mpr ⟨e.tree, valid_tree e, rfl, ?_⟩
    rw [extent_tree]
    rfl
  · rw [← srid_tree e]
    exact Geometry.srid_bytes e.tree

/-- The envelope of a line string from (NaN, -0) to (1, 2). -/
def partialBox : Envelope := ⟨.nan, .nan, .zero, .ofBits 0x4000000000000000⟩

/-- The bounds of X are the two zeros, and those of Y are one and the same subnormal. -/
def signedBox : Envelope := ⟨.negativeZero, .zero, .ofBits 1, .ofBits 1⟩

theorem compact_lossless_partial :
    (∃ bytes, Geometry.envelope bytes = .ok (some partialBox)) ∧
      Geometry.envelope partialBox.compact = .ok (some partialBox) ∧
      partialBox.compact.length = 93 ∧
      (∃ minX maxX minY maxY, checked minX maxX minY maxY = .ok signedBox) ∧
      Geometry.envelope signedBox.compact = .ok (some (.point .zero (.ofBits 1))) ∧
      signedBox.compact.length = 21 := by
  have hread : ∃ bytes, Geometry.envelope bytes = .ok (some partialBox) := by
    refine ⟨(Tree.lineString .plain [corner .nan .negativeZero,
      corner (.ofBits 0x3ff0000000000000) (.ofBits 0x4000000000000000)]).bytes, ?_⟩
    decide +kernel
  have hchecked : ∃ minX maxX minY maxY, checked minX maxX minY maxY = .ok signedBox :=
    ⟨_, _, _, _, checked_eq_ok_iff.mpr ⟨by decide, by decide, rfl⟩⟩
  obtain ⟨hpartial, hsame, -, -, hlength⟩ := compact_lossless (.inr hread)
  obtain ⟨hsigned, -, -, -, hlength'⟩ := compact_lossless (.inl hchecked)
  rw [hsame hread] at hpartial
  exact ⟨hread, hpartial, hlength, hchecked, hsigned, hlength'⟩

/-! ### At the precision of a key -/

/-- No bound of the envelope is the negative zero. -/
def Unsigned (e : Envelope) : Prop :=
  e.minX ≠ Binary.negativeZero ∧ e.maxX ≠ Binary.negativeZero ∧
    e.minY ≠ Binary.negativeZero ∧ e.maxY ≠ Binary.negativeZero

instance (e : Envelope) : Decidable e.Unsigned := inferInstanceAs (Decidable (_ ∧ _))

/-- The canonical form has the same key box exactly if no bound is the negative zero. -/
theorem narrow_canonical_iff (h : checked minX maxX minY maxY = .ok e) :
    narrow (e.map Binary.canonical) = e.narrow ↔ e.Unsigned := by
  obtain ⟨hx, hy⟩ := atMost_of_checked h
  obtain ⟨hminX, hmaxX, -⟩ := Binary.atMost_iff.mp hx
  obtain ⟨hminY, hmaxY, -⟩ := Binary.atMost_iff.mp hy
  simp only [narrow, Box.map, Box.mk.injEq, Unsigned, Double.narrow_canonical_iff hminX,
    Double.narrow_canonical_iff hmaxX, Double.narrow_canonical_iff hminY,
    Double.narrow_canonical_iff hmaxY]

end GeometryIndex.Envelope

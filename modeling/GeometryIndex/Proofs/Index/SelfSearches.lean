import GeometryIndex.Proofs.Index.Forms

/-!
# Indexes — searching for a row with itself

The envelope of bytes spans its axes, so at the precision of a key it meets itself, unless an axis
has no numbers.  An axis has none if the first coordinate of the shells has none there, whatever
comes after it, and then the envelope meets nothing at all.

* `Index.finds_itself_iff`: so a row of an open index finds itself exactly if the first coordinate
  of its shells has both X and Y;
* `Index.partial_point_not_found`: the point (NaN, 1), which is in an index and not found.
-/

namespace GeometryIndex

open Catalog

namespace Index

variable {ix : Index} {row : Row} {key : Key} {c : Catalog} {M : Contents}

/-- A key that was added and not removed since is among the entries. -/
theorem mem_toList (h : Reachable c M) (hmem : key ∈ M ix.map.map)
    (hfits : (M ix.map.map).count key < UInt32.size) :
    key ∈ (c.entries ix.map.map).toList := by
  have hcount := (h.holds.entries ix.map.map).count_toList key
  rw [Nat.mod_eq_of_lt hfits] at hcount
  exact List.count_pos_iff.mp (hcount ▸ Multiset.count_pos.mpr hmem)

/-- **When a row finds itself.**  Let the indexed column of a row hold bytes, as they are or as the
geometry made of them, that have an envelope, and let the key of the row be in an open index: it was
added and not removed since, and occurs no more often than a word of 32 bits can count.  The bytes
are the form of a geometry whose shells begin with some coordinate, and a lower bound of the
envelope is a number exactly if this coordinate has a number on the axis.  A search of the index
with the row succeeds, and yields a key of its id if and only if the coordinate has both X and Y; if
not, it yields no key at all. -/
theorem finds_itself_iff (h : Reachable c M) (hopen : ix.isClosed c = false) {bytes : List UInt8}
    {q : Envelope} (hvalue : (ix.value row).IsMadeOf bytes)
    (hread : Geometry.envelope bytes = .ok (some q)) (hkey : ix.key row = .ok key)
    (hmem : key ∈ M ix.map.map) (hfits : (M ix.map.map).count key < UInt32.size)
    (session : Session) :
    ∃ (tree : Tree) (first : Coordinate) (rest : List Coordinate) (found : List Key),
      tree.Valid ∧ tree.bytes = bytes ∧ tree.shells = first :: rest ∧
      q.minX.isNaN = first.x.isNaN ∧ q.minY.isNaN = first.y.isNaN ∧
      (ix.search session (some row) c).answer = .ok (.start found ix.table session.id) ∧
      ((∃ k ∈ found, k.row = row.id) ↔ first.x.isNaN = false ∧ first.y.isNaN = false) ∧
      (key ∈ found ∨ found = []) := by
  obtain ⟨tree, hvalid, hbytes, haround⟩ := Geometry.envelope_eq_ok_iff.mp hread
  obtain ⟨first, rest, hshells, hproper, hx, hy⟩ := Envelope.around_eq_some haround.symm
  have hsame : key = .ofEnvelope row.id (some q) :=
    Except.ok.inj (hkey.symm.trans (key_of_isMadeOf hvalue hread))
  refine ⟨tree, first, rest, _, hvalid, hbytes, hshells, hx, hy,
    search_eq_filter hopen hkey session, ?_⟩
  by_cases hposition : first.x.isNaN = false ∧ first.y.isNaN = false
  · have hself : key.intersects key = true := by
      rw [hsame, intersects_ofEnvelope]
      exact hproper.narrow_intersects_self_iff.mpr (by rwa [hx, hy])
    have hfound : key ∈ (c.entries ix.map.map).toList.filter fun k => k.intersects key :=
      List.mem_filter.mpr ⟨mem_toList h hmem hfits, hself⟩
    exact ⟨iff_of_true ⟨key, hfound, row_of_key hkey⟩ hposition, .inl hfound⟩
  · -- What the search has no number for is met by no box.
    have hnone : (c.entries ix.map.map).toList.filter (fun k => k.intersects key) = [] := by
      refine List.filter_eq_nil_iff.mpr fun k _ hk => hposition ?_
      rw [hsame, intersects_ofEnvelope] at hk
      obtain ⟨box, -, hmeets⟩ := (Option.any_eq_true _ _).mp hk
      rw [← hx, ← hy]
      exact Envelope.isNaN_of_narrow_intersects hmeets
    rw [hnone]
    exact ⟨iff_of_false (fun ⟨_, hk, _⟩ => List.not_mem_nil hk) hposition, .inr rfl⟩

/-- A row with bytes in the column of number 1. -/
def rowOfBytes (id : Int64) (bytes : List UInt8) : Row := ⟨id, [.null, .binary bytes]⟩

/-- One row, with the compact form of the wide box. -/
def wideBytesHistory : List Request :=
  [.openIndex "i" .sample .sample "T",
    .index "i" (.add .sample (rowOfBytes 1 wideBox.compact))]

theorem finds_itself_wide :
    (Database.empty.after wideBytesHistory).index? "i" = some (.sample ⟨0⟩) ∧
      ∃ found, ((Index.sample ⟨0⟩).search .sample (some (rowOfBytes 1 wideBox.compact))
          (Database.empty.after wideBytesHistory).catalog).answer = .ok (.start found "T" 1) ∧
        ∃ k ∈ found, k.row = 1 := by
  have hopen :
      (Index.sample ⟨0⟩).isClosed (Database.empty.after wideBytesHistory).catalog = false := by
    decide +kernel
  have hkey : (Index.sample ⟨0⟩).key (rowOfBytes 1 wideBox.compact) =
      .ok (.ofEnvelope 1 (some wideBox)) := by
    decide +kernel
  have hread : Geometry.envelope wideBox.compact = .ok (some wideBox) := by decide +kernel
  have hmem : Key.ofEnvelope 1 (some wideBox) ∈ Database.contents wideBytesHistory ⟨0⟩ := by
    decide +kernel
  have hfits : (Database.contents wideBytesHistory ⟨0⟩).count (.ofEnvelope 1 (some wideBox)) <
      UInt32.size := by
    decide +kernel
  obtain ⟨tree, first, rest, found, -, -, -, hx, hy, hfound, hself, -⟩ :=
    finds_itself_iff (Database.reachable_after wideBytesHistory) hopen .binary hread hkey hmem hfits
      .sample
  have hposition : first.x.isNaN = false ∧ first.y.isNaN = false :=
    ⟨hx.symm.trans (by decide), hy.symm.trans (by decide)⟩
  exact ⟨rfl, found, hfound, hself.mpr hposition⟩

/-- The point (NaN, 1). -/
def partialPoint : Tree := .point .plain (Envelope.corner .nan (.ofBits 0x3FF0000000000000))

/-- The point, as bytes, in an index. -/
def partialHistory : List Request :=
  [.openIndex "i" .sample .sample "T",
    .index "i" (.put .sample (rowOfBytes 1 partialPoint.bytes) "T")]

/-- **A row that does not find itself**: its key is in the index, with a box, and the search with it
comes back empty. -/
theorem partial_point_not_found :
    (Database.empty.after partialHistory).index? "i" = some (.sample ⟨0⟩) ∧
      (Index.sample ⟨0⟩).isClosed (Database.empty.after partialHistory).catalog = false ∧
      (∃ q key, Geometry.envelope partialPoint.bytes = .ok (some q) ∧
        (Index.sample ⟨0⟩).key (rowOfBytes 1 partialPoint.bytes) = .ok key ∧
        Database.contents partialHistory ⟨0⟩ = {key}) ∧
      ((Index.sample ⟨0⟩).search .sample (some (rowOfBytes 1 partialPoint.bytes))
          (Database.empty.after partialHistory).catalog).answer = .ok (.start [] "T" 1) :=
  ⟨rfl, rfl, ⟨_, _, rfl, rfl, rfl⟩, rfl⟩

end Index

end GeometryIndex

import GeometryIndex.Proofs.Index.Rebuilds
import GeometryIndex.Proofs.Number.Rounding
import Mathlib.Data.Multiset.Filter
import Mathlib.Data.Multiset.Replicate

/-!
# Indexes — searches

A key has the box of its row at single precision, so a search compares rounded boxes.  Rounding
preserves the order of numbers (`Binary.convert_atMost`), hence boxes that meet still meet when they
are rounded (`Envelope.narrow_intersects`), and no row that meets the query is missed for its box.
It is missed if its key was added 2³² times, which is where a word of 32 bits wraps around.

* `Index.search_exact_iff`: so a search finds exactly what it should if and only if no key that it
  should find is held that often;
* `Index.repeated_row_not_found`: a row added 2³² times, which is counted and not found.
-/

namespace GeometryIndex

open Catalog

/-! ### Rounded boxes -/

/-- Narrowing rounds to nearest, with ties to even and infinity beyond the range. -/
theorem Double.narrow_roundsTo (x : Double) : Binary.RoundsTo x x.narrow :=
  Binary.convert_roundsTo (by decide) x

theorem Double.narrow_atMost {x y : Double} (h : x.atMost y = true) :
    x.narrow.atMost y.narrow = true :=
  Binary.convert_atMost (by decide) (by decide) h

/-- **Envelopes that meet have key boxes that meet.** -/
theorem Envelope.narrow_intersects {a b : Envelope} (h : Box.intersects a b = true) :
    Box.intersects a.narrow b.narrow = true := by
  simp only [Box.intersects, Bool.and_eq_true] at h
  obtain ⟨⟨⟨h₁, h₂⟩, h₃⟩, h₄⟩ := h
  simp only [Box.intersects, Bool.and_eq_true]
  exact ⟨⟨⟨Double.narrow_atMost h₁, Double.narrow_atMost h₂⟩, Double.narrow_atMost h₃⟩,
    Double.narrow_atMost h₄⟩

/-! ### Keys and envelopes -/

/-- The key has a box, which overlaps or touches the envelope rounded to single precision. -/
def Key.meets (key : Key) (q : Envelope) : Bool := key.box.any fun box => box.intersects q.narrow

namespace Index

variable {ix : Index} {row : Row} {c : Catalog} {M : Contents}

/-- The envelope that a row has in the indexed column. -/
def envelope? (ix : Index) (row : Row) : Except DecodeFault (Option Envelope) :=
  (row.value ix.column.column.id.toNat).envelope?

theorem key_eq {envelope : Option Envelope} (h : ix.envelope? row = .ok envelope) :
    ix.key row = .ok (.ofEnvelope row.id envelope) := by
  rw [envelope?] at h
  simp only [key, h]
  rfl

theorem intersects_ofEnvelope (key : Key) (id : Int64) (q : Envelope) :
    key.intersects (.ofEnvelope id (some q)) = key.meets q := by
  obtain ⟨row, box⟩ := key
  cases box <;> rfl

theorem intersects_ofEnvelope_none (key : Key) (id : Int64) :
    key.intersects (.ofEnvelope id none) = false := by
  obtain ⟨row, box⟩ := key
  cases box <;> rfl

/-- **Envelopes that meet have keys that meet.** -/
theorem meets_of_intersects {e q : Envelope} {key : Key} (he : ix.envelope? row = .ok (some e))
    (hkey : ix.key row = .ok key) (hmeets : Box.intersects e q = true) : key.meets q = true := by
  obtain rfl := Except.ok.inj ((key_eq he).symm.trans hkey)
  exact Envelope.narrow_intersects hmeets

/-! ### What a search finds -/

/-- The keys found are those that a search for the envelope should find among those that are held:
with their multiplicities, the keys that meet it; and with them the key of every row whose own
envelope overlaps or touches the envelope before any rounding, through whichever index the row was
added. -/
structure FindsExactly (held : Multiset Key) (q : Envelope) (found : List Key) : Prop where
  matched : (found : Multiset Key) = held.filter fun key => key.meets q
  complete : ∀ (adder : Index) (other : Row) (e : Envelope) (key : Key),
    adder.envelope? other = .ok (some e) → adder.key other = .ok key →
      Box.intersects e q = true → key ∈ held → key ∈ found

/-- A search of an open index selects from its entries. -/
theorem search_eq_filter {key : Key} (hopen : ix.isClosed c = false) (hkey : ix.key row = .ok key)
    (session : Session) :
    (ix.search session (some row) c).answer =
      .ok (.start ((c.entries ix.map.map).toList.filter fun k => k.intersects key) ix.table
        session.id) := by
  rw [search_of_open hopen hkey, Entries.select_eq_filter]

/-- What is selected from the entries of a map is counted by a word of 32 bits. -/
theorem count_filter_toList (h : Reachable c M) (map : MapId) (q : Envelope) (key : Key) :
    ((c.entries map).toList.filter fun k => k.meets q).count key =
      if key.meets q = true then (M map).count key % UInt32.size else 0 := by
  split
  · next hmeets =>
    have hkept : ((c.entries map).toList.filter fun k => k.meets q).count key =
        (c.entries map).toList.count key := List.count_filter hmeets
    rw [hkept, (h.holds.entries map).count_toList]
  · next hmisses => exact List.count_eq_zero.mpr fun hmem => hmisses (List.mem_filter.mp hmem).2

/-- Counts of keys by words of 32 bits are exact if the words are wide enough, and only then. -/
theorem findsExactly_iff {held : Multiset Key} {q : Envelope} {found : List Key}
    (hcount : ∀ key, found.count key =
      if key.meets q = true then held.count key % UInt32.size else 0) :
    FindsExactly held q found ↔
      ∀ key ∈ held, key.meets q = true → held.count key < UInt32.size := by
  constructor
  · intro hfinds key _ hmeets
    have hsame : found.count key = held.count key := by
      rw [← Multiset.coe_count, hfinds.matched, Multiset.count_filter, if_pos hmeets]
    rw [← hsame, hcount, if_pos hmeets]
    exact Nat.mod_lt _ (by decide)
  · intro hfits
    have hmatched : (found : Multiset Key) = held.filter fun key => key.meets q := by
      refine Multiset.ext.mpr fun key => ?_
      rw [Multiset.coe_count, hcount, Multiset.count_filter]
      split
      · next hmeets =>
        by_cases hheld : key ∈ held
        · exact Nat.mod_eq_of_lt (hfits key hheld hmeets)
        · rw [Multiset.count_eq_zero_of_notMem hheld, Nat.zero_mod]
      · rfl
    refine ⟨hmatched, fun adder other e key he hkey hmeets hheld => ?_⟩
    rw [← Multiset.mem_coe, hmatched]
    exact Multiset.mem_filter.mpr ⟨hheld, meets_of_intersects he hkey hmeets⟩

/-- **When a search is exact.**  Whatever operations came before, a search of an open index with a
row that has no envelope (a null, or an empty geometry) finds nothing.  A search with a row of
envelope `q` finds, in ascending order, keys that its map was given and that have a box which
overlaps or touches `q` rounded to single precision, each of them as often as a word of 32 bits
counts it.  So it finds the key of a row whose own envelope overlaps or touches `q` before any
rounding, through whichever index the row was added, unless the key is held a multiple of 2³² times;
and it finds exactly what it should if and only if it should find no key that is held 2³² times or
more.  Rounding is to nearest, with ties to even and infinity beyond the range. -/
theorem search_exact_iff (h : Reachable c M) (hopen : ix.isClosed c = false) (session : Session)
    {envelope : Option Envelope} (henvelope : ix.envelope? row = .ok envelope) :
    ∃ found,
      (ix.search session (some row) c).answer = .ok (.start found ix.table session.id) ∧
      found.Pairwise (fun a b => a.order b ≠ .gt) ∧
      (envelope = none → found = []) ∧
      (∀ q, envelope = some q →
        (∀ key, found.count key =
          if key.meets q = true then (M ix.map.map).count key % UInt32.size else 0) ∧
        (∀ (adder : Index) (other : Row) (e : Envelope) (key : Key),
          adder.envelope? other = .ok (some e) → adder.key other = .ok key →
            Box.intersects e q = true →
              (key ∈ found ↔ ¬ UInt32.size ∣ (M ix.map.map).count key)) ∧
        (FindsExactly (M ix.map.map) q found ↔
          ∀ key ∈ M ix.map.map, key.meets q = true →
            (M ix.map.map).count key < UInt32.size)) ∧
      ∀ x : Double, Binary.RoundsTo x x.narrow := by
  refine ⟨_, search_eq_filter hopen (key_eq henvelope) session,
    (Entries.pairwise_toList (h.holds.entries ix.map.map).sorted).filter _, ?_, ?_,
    Double.narrow_roundsTo⟩
  · rintro rfl
    exact List.filter_eq_nil_iff.mpr fun key _ => by simp [intersects_ofEnvelope_none]
  · rintro q rfl
    simp only [intersects_ofEnvelope]
    have hcount := count_filter_toList h ix.map.map q
    refine ⟨hcount, fun adder other e key he hkey hmeets => ?_, findsExactly_iff hcount⟩
    rw [← List.count_pos_iff, hcount, if_pos (meets_of_intersects he hkey hmeets),
      Nat.dvd_iff_mod_eq_zero]
    exact Nat.pos_iff_ne_zero

/-- A box as wide as 16777217, the first integer that is not a single. -/
def wideBox : Envelope :=
  ⟨.zero, .ofBits 0x4170000010000000, .zero, .ofBits 0x3FF0000000000000⟩

/-- A box that begins at 16777217, and touches the wide one in a corner. -/
def cornerBox : Envelope :=
  ⟨.ofBits 0x4170000010000000, .ofBits 0x4170000020000000, .ofBits 0x3FF0000000000000,
    .ofBits 0x4000000000000000⟩

/-- A row with a box in the column of number 1. -/
def rowOf (id : Int64) (e : Envelope) : Row := ⟨id, [.null, .geometry (.ofEnvelope e)]⟩

/-- One row, with the wide box. -/
def wideHistory : List Request :=
  [.openIndex "i" .sample .sample "T", .index "i" (.add .sample (rowOf 1 wideBox))]

theorem search_exact_iff_corner :
    (Database.empty.after wideHistory).index? "i" = some (.sample ⟨0⟩) ∧
      ∃ found, ((Index.sample ⟨0⟩).search .sample (some (rowOf 2 cornerBox))
          (Database.empty.after wideHistory).catalog).answer = .ok (.start found "T" 1) ∧
        FindsExactly (Database.contents wideHistory ⟨0⟩) cornerBox found ∧
        .ofEnvelope 1 (some wideBox) ∈ found := by
  have hopen : (Index.sample ⟨0⟩).isClosed (Database.empty.after wideHistory).catalog = false := by
    decide
  have henvelope : (Index.sample ⟨0⟩).envelope? (rowOf 2 cornerBox) = .ok (some cornerBox) := rfl
  obtain ⟨found, hfound, -, -, hquery, -⟩ :=
    search_exact_iff (Database.reachable_after wideHistory) hopen .sample henvelope
  obtain ⟨-, -, hexact⟩ := hquery cornerBox rfl
  have hheld : Database.contents wideHistory ⟨0⟩ = {.ofEnvelope 1 (some wideBox)} := by
    decide +kernel
  have hfinds : FindsExactly (Database.contents wideHistory ⟨0⟩) cornerBox found := by
    refine hexact.mpr fun key _ _ => (Multiset.count_le_card key _).trans_lt ?_
    rw [show (Index.sample ⟨0⟩).map.map = ⟨0⟩ from rfl, hheld]
    decide
  have hrow : (Index.sample ⟨0⟩).envelope? (rowOf 1 wideBox) = .ok (some wideBox) := rfl
  refine ⟨rfl, found, hfound, hfinds,
    hfinds.complete _ _ wideBox _ hrow (key_eq hrow) (by decide) ?_⟩
  rw [hheld]
  exact Multiset.mem_singleton_self _

/-- One row added again and again to an open index without keys. -/
theorem addAll_replicate (h : Reachable c M) (hopen : ix.isClosed c = false)
    (hempty : M ix.map.map = 0) {key : Key} (hkey : ix.key row = .ok key) (session : Session)
    (n : Nat) :
    ∃ c' log M', ix.addAll session (List.replicate n row) c = ⟨.ok (), c', log⟩ ∧
      ix.isClosed c' = false ∧ Reachable c' M' ∧
      M' ix.map.map = Multiset.replicate n key := by
  have hkeys : ix.Keys (List.replicate n row) (List.replicate n key) := by
    induction n with
    | zero => exact .nil
    | succ n ih => exact .cons hkey ih
  obtain ⟨c', log, hadded, hopen', hfull⟩ := addAll_of_open hkeys session h hopen
  refine ⟨c', log, _, hadded, hopen', hfull, ?_⟩
  rw [Function.update_self, hempty, Multiset.add_zero, Multiset.coe_replicate]

/-- Keys that are held a multiple of 2³² times are not among the entries. -/
theorem toList_eq_nil (h : Reachable c M) {map : MapId}
    (hwrapped : ∀ key, UInt32.size ∣ (M map).count key) : (c.entries map).toList = [] := by
  refine List.eq_nil_iff_forall_not_mem.mpr fun key => List.count_eq_zero.mp ?_
  rw [(h.holds.entries map).count_toList]
  exact Nat.mod_eq_zero_of_dvd (hwrapped key)

/-- **A row that was added 2³² times is not found**, not even by a search with the row itself,
although the index counts every addition. -/
theorem repeated_row_not_found :
    (Session.sample.openIndex .sample "T" .empty).answer = .ok (.sample ⟨0⟩) ∧
      ∃ full log M,
        (Index.sample ⟨0⟩).addAll .sample (List.replicate UInt32.size (rowOf 1 wideBox))
          (Session.sample.openIndex .sample "T" .empty).catalog = ⟨.ok (), full, log⟩ ∧
        Reachable full M ∧
        M ⟨0⟩ = Multiset.replicate UInt32.size (.ofEnvelope 1 (some wideBox)) ∧
        (Index.sample ⟨0⟩).isClosed full = false ∧
        (Index.sample ⟨0⟩).rowCount full = 4294967296 ∧
        Box.intersects wideBox wideBox = true ∧
        ((Index.sample ⟨0⟩).search .sample (some (rowOf 1 wideBox)) full).answer =
          .ok (.start [] "T" 1) ∧
        ¬ FindsExactly (M ⟨0⟩) wideBox [] := by
  have hkey : (Index.sample ⟨0⟩).key (rowOf 1 wideBox) = .ok (.ofEnvelope 1 (some wideBox)) := rfl
  obtain ⟨full, log, M, hadded, hopen, hfull, (hheld : M ⟨0⟩ = _)⟩ :=
    addAll_replicate (Reachable.empty.openIndex .sample .sample "T") rfl rfl hkey .sample
      UInt32.size
  have hwrapped : ∀ key, UInt32.size ∣ (M ⟨0⟩).count key := by
    intro key
    rw [hheld, Multiset.count_replicate]
    split
    · exact Nat.dvd_refl _
    · exact Nat.dvd_zero _
  refine ⟨rfl, full, log, M, hadded, hfull, hheld, hopen, ?_, by decide, ?_, fun hfinds => ?_⟩
  · rw [rowCount_eq hfull]
    show UInt64.ofNat (M ⟨0⟩).card = _
    rw [hheld, Multiset.card_replicate]
    rfl
  · have hnone : (full.entries (Index.sample ⟨0⟩).map.map).toList = [] :=
      toList_eq_nil hfull hwrapped
    rw [search_eq_filter hopen hkey, hnone]
    rfl
  · have hmem : Key.ofEnvelope 1 (some wideBox) ∈ M ⟨0⟩ := by
      rw [hheld]
      exact Multiset.mem_replicate.mpr ⟨by decide, rfl⟩
    exact List.not_mem_nil
      (hfinds.complete _ (rowOf 1 wideBox) wideBox _ rfl hkey (by decide) hmem)

end Index

end GeometryIndex

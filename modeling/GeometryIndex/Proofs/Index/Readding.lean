import GeometryIndex.Proofs.Index.Rebuilds
import GeometryIndex.Proofs.Index.Searches
import GeometryIndex.Proofs.Keys.Widening

/-!
# Indexes — adding widened keys again

What an index has stored of a row is its id and its envelope at single precision.  A row that has
just that envelope has the key that is stored (`Index.Widened.key_eq`), so an index that is cleared
and given such rows ends up with the keys it had (`Index.refill_of_open`), whichever index they come
from.

* `Index.widened_views_agree`: boxes of keys and their envelopes are two views of one thing.
-/

namespace GeometryIndex

open Catalog

namespace Index

variable {ix other : Index} {session : Session} {row : Row} {rows : List Row} {key : Key}
  {keys stored : List Key} {c : Catalog} {M : Contents}

/-- The row has the id of the key and, as an envelope, its widened box. -/
structure Widened (ix : Index) (row : Row) (key : Key) : Prop where
  id : row.id = key.row
  envelope : ix.envelope? row = .ok (key.box.map KeyBox.widen)

theorem Widened.key_eq (h : ix.Widened row key) (hnumeric : key.IsNumeric) :
    ix.key row = .ok key := by
  rw [Index.key_eq h.envelope, h.id, Key.ofEnvelope_widen hnumeric]

theorem keys_of_widened (h : List.Forall₂ ix.Widened rows keys)
    (hnumeric : ∀ key ∈ keys, key.IsNumeric) : ix.Keys rows keys := by
  induction h with
  | nil => exact .nil
  | cons hrow _ ih =>
    exact .cons (hrow.key_eq (hnumeric _ List.mem_cons_self))
      (ih fun key hkey => hnumeric key (List.mem_cons_of_mem _ hkey))

/-- Removes all keys and adds rows one after the other. -/
def refill (ix : Index) (session : Session) (rows : List Row) : Operation Unit := do
  ix.truncate session
  ix.addAll session rows

/-- What an open index finds is ascending, and no key occurs in it more often than a word of 32 bits
can count. -/
theorem find_stored (h : Reachable c M) (hopen : ix.isClosed c = false)
    (hstored : (ix.find session c).answer = .ok (.start stored ix.table session.id)) :
    Key.Ascending stored ∧ ∀ key, stored.count key = (M ix.map.map).count key % UInt32.size := by
  have hentries := h.holds.entries ix.map.map
  rw [find_of_open hopen] at hstored
  obtain rfl : (c.entries ix.map.map).toList = stored :=
    congrArg Cursor.rest (Except.ok.inj hstored)
  exact ⟨Entries.pairwise_toList hentries.sorted, hentries.count_toList⟩

/-- **Refilling** an open index succeeds, and leaves it open with the keys of the rows. -/
theorem refill_of_open (hkeys : ix.Keys rows keys) (session : Session) (h : Reachable c M)
    (hopen : ix.isClosed c = false) :
    ∃ c' log, ix.refill session rows c = ⟨.ok (), c', log⟩ ∧ ix.isClosed c' = false ∧
      Reachable c' (Function.update M ix.map.map keys) := by
  have hmap := (isClosed_eq_false.mp hopen).2
  have hcleared := h.clear ix.map (by rw [MapHandle.clear_of_open hmap])
  have hopen' : ix.isClosed (ix.map.clear c).catalog = false := by
    rw [MapHandle.clear_of_open hmap, isClosed_setEntries]
    exact hopen
  obtain ⟨c', log, hadded, hclosed, hreachable⟩ := addAll_of_open hkeys session hcleared hopen'
  rw [Function.update_idem, Function.update_self, Multiset.add_zero] at hreachable
  refine ⟨c', [.truncate ix.name session.id] ++ log, ?_, hclosed, hreachable⟩
  rw [refill, Operation.bind_of_ok (truncate_of_open hopen), hadded]

/-- An open index that is refilled with the widened keys that an index has stored has these keys. -/
theorem refill_stored (h : Reachable c M) (hopen : ix.isClosed c = false)
    (hother : other.isClosed c = false)
    (hstored : (ix.find session c).answer = .ok (.start stored ix.table session.id))
    (hnumeric : ∀ key ∈ stored, key.IsNumeric) (hrows : List.Forall₂ other.Widened rows stored) :
    ∃ c' log, other.refill session rows c = ⟨.ok (), c', log⟩ ∧
      (other.find session c').answer = .ok (.start stored other.table session.id) ∧
      other.rowCount c' = UInt64.ofNat stored.length := by
  obtain ⟨hascending, hcount⟩ := find_stored h hopen hstored
  obtain ⟨c', log, hdone, hopen', hreachable⟩ :=
    refill_of_open (keys_of_widened hrows hnumeric) session h hother
  have hfits : ∀ key, (Function.update M other.map.map stored other.map.map).count key <
      UInt32.size := by
    intro key
    rw [Function.update_self, Multiset.coe_count, hcount]
    exact Nat.mod_lt _ (by decide)
  obtain ⟨found, hfound, hcontents, hpairwise⟩ := find_eq hreachable hopen' hfits session
  rw [Function.update_self, Multiset.coe_eq_coe] at hcontents
  obtain rfl := Key.eq_of_ascending hpairwise hascending hcontents
  have hsize := rowCount_eq hreachable other
  rw [Function.update_self, Multiset.coe_card] at hsize
  exact ⟨c', log, hdone, hfound, hsize⟩

/-- **The box of a key and its envelope are consistent views of each other.**  Boxes meet exactly if
their envelopes do, NaNs included.  A box without NaNs is the same bit for bit after it was widened
and narrowed again, so narrowing an envelope once more changes nothing, and a key without NaNs is
that of its row with the widened box; every index gives it to a row with that envelope.  Hence an
open index that is cleared and given such rows, one for each key that an open index has stored,
finds and counts the very keys that were stored. -/
theorem widened_views_agree :
    (∀ a b : KeyBox, a.intersects b = Box.intersects a.widen b.widen) ∧
      (∀ b : KeyBox, b.IsNumeric → b.widen.narrow = b) ∧
      (∀ e : Envelope, Box.IsNumeric e → e.narrow.widen.narrow = e.narrow) ∧
      (∀ key : Key, key.IsNumeric → Key.ofEnvelope key.row (key.box.map KeyBox.widen) = key) ∧
      (∀ (ix : Index) row key, key.IsNumeric → ix.Widened row key → ix.key row = .ok key) ∧
      ∀ {c : Catalog} {M : Contents}, Reachable c M → ∀ (ix other : Index) session stored rows,
        ix.isClosed c = false → other.isClosed c = false →
        (ix.find session c).answer = .ok (.start stored ix.table session.id) →
        (∀ key ∈ stored, key.IsNumeric) → List.Forall₂ other.Widened rows stored →
        ∃ c' log, other.refill session rows c = ⟨.ok (), c', log⟩ ∧
          (other.find session c').answer = .ok (.start stored other.table session.id) ∧
          other.rowCount c' = UInt64.ofNat stored.length :=
  ⟨fun a b => (KeyBox.intersects_widen a b).symm, fun _ => KeyBox.narrow_widen,
    fun _ => Envelope.narrow_narrow, fun _ => Key.ofEnvelope_widen,
    fun _ _ _ hnumeric hrow => hrow.key_eq hnumeric,
    fun h _ _ _ _ _ hopen hother hstored hnumeric hrows =>
      refill_stored h hopen hother hstored hnumeric hrows⟩

/-- A box from minus infinity to the least positive single, and from the negative zero to
infinity. -/
def extremeBox : KeyBox := ⟨.ofBits 0xFF800000, .ofBits 1, .negativeZero, .infinity⟩

/-- A row with a box that narrowing changes, one with extreme bounds, and one without a box. -/
def mixedHistory : List Request :=
  let request (r : IndexRequest) : Request := .index "i" r
  [.openIndex "i" .sample .sample "T", request (.add .sample (rowOf 1 wideBox)),
    request (.add .sample (rowOf 2 extremeBox.widen)), request (.add .sample ⟨3, []⟩)]

theorem widened_rowOf (store : StoreId) (id : Int64) (b : KeyBox) :
    (Index.sample store).Widened (rowOf id b.widen) ⟨id, some b⟩ := ⟨rfl, rfl⟩

theorem widened_views_agree_mixed :
    let c := (Database.empty.after mixedHistory).catalog
    let stored := [⟨1, some wideBox.narrow⟩, ⟨2, some extremeBox⟩, ⟨3, none⟩]
    let rows := [rowOf 1 wideBox.narrow.widen, rowOf 2 extremeBox.widen, ⟨3, []⟩]
    wideBox.narrow.widen ≠ wideBox ∧
      ((Index.sample ⟨0⟩).find .sample c).answer = .ok (.start stored "T" 1) ∧
      ∃ c' log, (Index.sample ⟨0⟩).refill .sample rows c = ⟨.ok (), c', log⟩ ∧
        ((Index.sample ⟨0⟩).find .sample c').answer = .ok (.start stored "T" 1) ∧
        (Index.sample ⟨0⟩).rowCount c' = 3 := by
  intro c stored rows
  have hopen : (Index.sample ⟨0⟩).isClosed c = false := by decide
  have hentries : (c.entries (Index.sample ⟨0⟩).map.map).toList = stored := by decide +kernel
  have hfound : ((Index.sample ⟨0⟩).find .sample c).answer = .ok (.start stored "T" 1) := by
    rw [find_of_open hopen, hentries]
    rfl
  have hnumeric : ∀ key ∈ stored, key.IsNumeric := by
    have hwide : Box.IsNumeric wideBox := ⟨by decide, by decide, by decide, by decide⟩
    have hextreme : extremeBox.IsNumeric := ⟨by decide, by decide, by decide, by decide⟩
    simp only [stored, List.forall_mem_cons]
    exact ⟨Key.isNumeric_some (Envelope.isNumeric_narrow hwide), Key.isNumeric_some hextreme,
      Key.isNumeric_none 3, nofun⟩
  have hrows : List.Forall₂ (Index.sample ⟨0⟩).Widened rows stored :=
    .cons (widened_rowOf _ _ _) (.cons (widened_rowOf _ _ _) (.cons ⟨rfl, rfl⟩ .nil))
  obtain ⟨-, -, -, -, -, hrefill⟩ := widened_views_agree
  exact ⟨by decide +kernel, hfound,
    hrefill (Database.reachable_after mixedHistory) _ _ _ _ _ hopen hopen hfound hnumeric hrows⟩

end Index

end GeometryIndex

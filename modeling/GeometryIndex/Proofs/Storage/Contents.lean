import GeometryIndex.Proofs.Storage.Entries
import Mathlib.Data.Multiset.AddSub

/-!
# Storage — entries as a multiset

`e.Represents M` says that the entries of a map stand for the multiset `M`: every tally is a
multiplicity and the size is the cardinality, each as far as its word reaches.  Insertion and
erasure follow the multiset (`Represents.insert`, `Represents.erase`), however often a word has
wrapped around.  While every multiplicity fits its word nothing is lost: a scan yields `M` itself
(`Represents.toList_eq`), and there is an occurrence to erase exactly for the members of `M`
(`Represents.erase?_isSome`).
-/

namespace GeometryIndex

namespace Entries

/-- The entries stand for a multiset of keys. -/
structure Represents (e : Entries) (M : Multiset Key) : Prop where
  sorted : Sorted e.counts
  tally : ∀ key, tally key e.counts = UInt32.ofNat (M.count key)
  /-- A key is listed only if it occurs, even where its tally has wrapped around to zero. -/
  listed : ∀ key ∈ keys e.counts, key ∈ M
  size : e.size = UInt64.ofNat M.card

variable {e : Entries} {M : Multiset Key} {key : Key}

namespace Represents

theorem empty : Represents .empty 0 where
  sorted := sorted_nil
  tally _ := rfl
  listed _ h := absurd h List.not_mem_nil
  size := rfl

theorem insert (h : e.Represents M) (key : Key) : (e.insert key).Represents (key ::ₘ M) where
  sorted := h.sorted.insertCount key
  tally q := by
    rw [Entries.insert, tally_insertCount h.sorted, h.tally, Multiset.count_cons]
    by_cases hq : q = key
    · rw [if_pos hq, if_pos hq, UInt32.ofNat_add]
      rfl
    · rw [if_neg hq, if_neg hq, Nat.add_zero]
  listed q hq := by
    rcases mem_keys_insertCount.mp hq with rfl | hq
    · exact Multiset.mem_cons_self q M
    · exact Multiset.mem_cons_of_mem (h.listed q hq)
  size := by
    rw [Entries.insert, h.size, Multiset.card_cons, UInt64.ofNat_add]
    rfl

/-- What can be erased occurs. -/
theorem mem_of_isSome (h : e.Represents M) (hsome : (e.erase? key).isSome) : key ∈ M := by
  rw [erase?, Option.isSome_map, eraseCount?_isSome h.sorted] at hsome
  exact h.listed key hsome

theorem erase (h : e.Represents M) {left : Entries} (herase : e.erase? key = some left) :
    left.Represents (M.erase key) := by
  have hmem : key ∈ M := h.mem_of_isSome (herase ▸ rfl)
  rw [erase?, Option.map_eq_some_iff] at herase
  obtain ⟨counts, herase, rfl⟩ := herase
  obtain ⟨hsorted, hkeys, htally, hzero⟩ := h.sorted.eraseCount? herase
  have hcount : Entries.tally key counts = UInt32.ofNat ((M.erase key).count key) := by
    have hpos : 1 ≤ M.count key := Multiset.one_le_count_iff_mem.mpr hmem
    rw [htally, if_pos rfl, h.tally, Multiset.count_erase_self, UInt32.ofNat_sub hpos]
    rfl
  refine ⟨hsorted, fun q => ?_, fun q hq => ?_, ?_⟩
  · by_cases hq : q = key
    · subst hq
      exact hcount
    · rw [htally, if_neg hq, h.tally, Multiset.count_erase_of_ne hq]
  · by_cases hqkey : q = key
    · subst hqkey
      -- A tally that is not zero is a multiplicity that is not zero.
      have hne := hzero hq
      rw [hcount] at hne
      refine Multiset.count_ne_zero.mp fun hnone => hne ?_
      rw [hnone]
      rfl
    · exact (Multiset.mem_erase_of_ne hqkey).mpr (h.listed q (hkeys q hq))
  · have hcard : 1 ≤ M.card := Multiset.card_pos_iff_exists_mem.mpr ⟨key, hmem⟩
    rw [Multiset.card_erase_of_mem hmem, h.size, Nat.pred_eq_sub_one, UInt64.ofNat_sub hcard]
    rfl

/-- A scan yields every key as often as it occurs, as far as a word of 32 bits reaches. -/
theorem count_toList (h : e.Represents M) (key : Key) :
    e.toList.count key = M.count key % UInt32.size := by
  rw [Entries.count_toList h.sorted, h.tally]
  exact UInt32.toNat_ofNat'

/-- **A scan yields the multiset.** -/
theorem toList_eq (h : e.Represents M) (hfits : ∀ key, M.count key < UInt32.size) :
    (e.toList : Multiset Key) = M := by
  ext key
  rw [Multiset.coe_count, h.count_toList, Nat.mod_eq_of_lt (hfits key)]

/-- **There is an occurrence to erase exactly if the key occurs.** -/
theorem erase?_isSome (h : e.Represents M) (hfits : M.count key < UInt32.size) :
    (e.erase? key).isSome ↔ key ∈ M := by
  rw [erase?, Option.isSome_map, eraseCount?_isSome h.sorted]
  refine ⟨h.listed key, fun hmem => ?_⟩
  by_contra hnot
  -- Not listed, so its multiplicity is a multiple of the word, and too small to be another than 0.
  have hzero := h.tally key
  rw [tally_eq_zero hnot, eq_comm, UInt32.ofNat_eq_iff_mod_eq_toNat] at hzero
  have hpos := Multiset.count_pos.mpr hmem
  rw [Nat.mod_eq_of_lt hfits] at hzero
  exact absurd hzero (Nat.ne_of_gt hpos)

end Represents

end Entries

end GeometryIndex

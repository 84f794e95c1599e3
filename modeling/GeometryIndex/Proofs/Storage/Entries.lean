import GeometryIndex.Proofs.Keys.Order
import GeometryIndex.Storage.Entries

/-!
# Storage — counts of keys

The counts of a map are `Sorted`: in strictly ascending order, so each key is there once.  What they
say of a key is its `tally`, a word of 32 bits.  `insertCount` and `eraseCount?` keep counts sorted
(`Sorted.insertCount`, `Sorted.eraseCount?`) and change one tally by one, round about the word
(`tally_insertCount`, `tally_eraseCount?`); a scan lists every key as often as its tally says, in
ascending order (`count_toList`, `pairwise_toList`).
-/

namespace GeometryIndex

namespace Entries

/-- Keys in strictly ascending order. -/
def Sorted (counts : List (Key × UInt32)) : Prop :=
  counts.Pairwise fun x y => x.1.order y.1 = .lt

/-- The keys that are listed, whatever the number beside them. -/
def keys (counts : List (Key × UInt32)) : List Key := counts.map Prod.fst

/-- The number of occurrences of a key. -/
def tally (key : Key) : List (Key × UInt32) → UInt32
  | [] => 0
  | (k, n) :: rest => if key = k then n else tally key rest

@[simp] theorem keys_nil : keys [] = [] := rfl

@[simp] theorem keys_cons (k : Key) (n : UInt32) (rest : List (Key × UInt32)) :
    keys ((k, n) :: rest) = k :: keys rest := rfl

theorem sorted_nil : Sorted [] := List.Pairwise.nil

theorem sorted_cons {k : Key} {n : UInt32} {rest : List (Key × UInt32)} :
    Sorted ((k, n) :: rest) ↔ (∀ q ∈ keys rest, k.order q = .lt) ∧ Sorted rest := by
  simp [Sorted, keys]

theorem tally_eq_zero {key : Key} {counts : List (Key × UInt32)} (h : key ∉ keys counts) :
    tally key counts = 0 := by
  induction counts with
  | nil => rfl
  | cons entry rest ih =>
    obtain ⟨k, n⟩ := entry
    rw [keys_cons, List.mem_cons, not_or] at h
    obtain ⟨hne, hrest⟩ := h
    rw [tally, if_neg hne]
    exact ih hrest

/-- The head of sorted counts is not listed again. -/
theorem Sorted.head_notMem {k : Key} {n : UInt32} {rest : List (Key × UInt32)}
    (h : Sorted ((k, n) :: rest)) : k ∉ keys rest :=
  fun hmem => Key.ne_of_order_lt ((sorted_cons.mp h).1 k hmem) rfl

/-- A key below the head of sorted counts is not listed. -/
theorem Sorted.notMem_of_lt {key k : Key} {n : UInt32} {rest : List (Key × UInt32)}
    (h : Sorted ((k, n) :: rest)) (hlt : key.order k = .lt) : key ∉ keys ((k, n) :: rest) := by
  intro hmem
  rcases List.mem_cons.mp hmem with rfl | hmem
  · exact Key.ne_of_order_lt hlt rfl
  · exact Key.ne_of_order_lt (Key.order_lt_trans hlt ((sorted_cons.mp h).1 key hmem)) rfl

/-- An entry of sorted counts is the tally of its key. -/
theorem Sorted.tally_of_mem {counts : List (Key × UInt32)} (h : Sorted counts) {key : Key}
    {n : UInt32} (hmem : (key, n) ∈ counts) : tally key counts = n := by
  induction counts with
  | nil => exact absurd hmem List.not_mem_nil
  | cons entry rest ih =>
    rcases List.mem_cons.mp hmem with rfl | hmem
    · rw [tally, if_pos rfl]
    · have hne : key ≠ entry.1 :=
        fun hkey => h.head_notMem (hkey ▸ List.mem_map.mpr ⟨_, hmem, rfl⟩)
      rw [tally, if_neg hne]
      exact ih (sorted_cons.mp h).2 hmem

/-! ### One occurrence more -/

theorem mem_keys_insertCount {key q : Key} {counts : List (Key × UInt32)} :
    q ∈ keys (insertCount key counts) ↔ q = key ∨ q ∈ keys counts := by
  induction counts with
  | nil => simp [insertCount]
  | cons entry rest ih =>
    obtain ⟨k, n⟩ := entry
    cases horder : key.order k with
    | lt => simp [insertCount, horder]
    | eq =>
      obtain rfl := Key.order_eq_iff.mp horder
      simp [insertCount, horder]
    | gt =>
      simp only [insertCount, horder, keys_cons, List.mem_cons, ih]
      exact or_left_comm

theorem Sorted.insertCount {counts : List (Key × UInt32)} (h : Sorted counts) (key : Key) :
    Sorted (insertCount key counts) := by
  induction counts with
  | nil => exact sorted_cons.mpr ⟨by simp, sorted_nil⟩
  | cons entry rest ih =>
    obtain ⟨k, n⟩ := entry
    obtain ⟨hhead, hrest⟩ := sorted_cons.mp h
    cases horder : key.order k with
    | lt =>
      simp only [Entries.insertCount, horder]
      refine sorted_cons.mpr ⟨?_, h⟩
      intro q hq
      rcases List.mem_cons.mp hq with rfl | hq
      · exact horder
      · exact Key.order_lt_trans horder (hhead q hq)
    | eq =>
      simp only [Entries.insertCount, horder]
      exact sorted_cons.mpr ⟨hhead, hrest⟩
    | gt =>
      simp only [Entries.insertCount, horder]
      refine sorted_cons.mpr ⟨?_, ih hrest⟩
      intro q hq
      rcases mem_keys_insertCount.mp hq with rfl | hq
      · exact Key.order_gt_iff.mp horder
      · exact hhead q hq

theorem tally_insertCount {counts : List (Key × UInt32)} (h : Sorted counts) (key q : Key) :
    tally q (insertCount key counts) =
      if q = key then tally q counts + 1 else tally q counts := by
  induction counts with
  | nil => simp [insertCount, tally]
  | cons entry rest ih =>
    obtain ⟨k, n⟩ := entry
    cases horder : key.order k with
    | lt =>
      -- Below the head, so not listed so far: the first occurrence.
      have hnot := tally_eq_zero (h.notMem_of_lt horder)
      simp only [insertCount, horder]
      rw [tally]
      by_cases hq : q = key
      · subst hq
        rw [if_pos rfl, if_pos rfl, hnot]
        rfl
      · rw [if_neg hq, if_neg hq]
    | eq =>
      obtain rfl := Key.order_eq_iff.mp horder
      simp only [insertCount, horder, tally]
      by_cases hq : q = key
      · simp [hq]
      · simp [hq]
    | gt =>
      have hne := Key.ne_of_order_gt horder
      simp only [insertCount, horder, tally]
      by_cases hq : q = k
      · subst hq
        rw [if_pos rfl, if_pos rfl, if_neg (Ne.symm hne)]
      · rw [if_neg hq, if_neg hq]
        exact ih (sorted_cons.mp h).2

/-! ### One occurrence less -/

/-- A key has an occurrence to lose if it is listed. -/
theorem eraseCount?_isSome {counts : List (Key × UInt32)} (h : Sorted counts) (key : Key) :
    (eraseCount? key counts).isSome ↔ key ∈ keys counts := by
  induction counts with
  | nil => simp [eraseCount?]
  | cons entry rest ih =>
    obtain ⟨k, n⟩ := entry
    cases horder : key.order k with
    | lt =>
      have hnot := h.notMem_of_lt horder
      simpa [eraseCount?, horder] using hnot
    | eq =>
      obtain rfl := Key.order_eq_iff.mp horder
      simp [eraseCount?, horder]
    | gt =>
      have hne := Key.ne_of_order_gt horder
      simp [eraseCount?, horder, hne, ih (sorted_cons.mp h).2]

/-- Erasing from sorted counts leaves sorted counts of the same keys, with one tally down by one;
a key that lost its last occurrence is no longer listed. -/
theorem Sorted.eraseCount? {key : Key} {counts left : List (Key × UInt32)} (h : Sorted counts)
    (herase : eraseCount? key counts = some left) :
    Sorted left ∧ (∀ q ∈ keys left, q ∈ keys counts) ∧
      (∀ q, tally q left = if q = key then tally q counts - 1 else tally q counts) ∧
      (key ∈ keys left → tally key left ≠ 0) := by
  induction counts generalizing left with
  | nil => simp [Entries.eraseCount?] at herase
  | cons entry rest ih =>
    obtain ⟨k, n⟩ := entry
    obtain ⟨hhead, hrest⟩ := sorted_cons.mp h
    cases horder : key.order k with
    | lt => simp [Entries.eraseCount?, horder] at herase
    | eq =>
      obtain rfl := Key.order_eq_iff.mp horder
      simp only [Entries.eraseCount?, horder, Option.some.injEq] at herase
      -- The last occurrence takes the entry along, and the rest of sorted counts has no other.
      by_cases hlast : n - 1 = 0
      · rw [if_pos hlast] at herase
        subst herase
        refine ⟨hrest, fun q hq => List.mem_cons_of_mem _ hq, fun q => ?_,
          fun hmem => absurd hmem h.head_notMem⟩
        by_cases hq : q = key
        · subst hq
          rw [if_pos rfl, tally_eq_zero h.head_notMem, tally, if_pos rfl, hlast]
        · rw [if_neg hq, tally, if_neg hq]
      · rw [if_neg hlast] at herase
        subst herase
        refine ⟨sorted_cons.mpr ⟨hhead, hrest⟩, fun q hq => hq, fun q => ?_, fun _ => ?_⟩
        · by_cases hq : q = key
          · simp [tally, hq]
          · simp [tally, hq]
        · rw [tally, if_pos rfl]
          exact hlast
    | gt =>
      have hne := Key.ne_of_order_gt horder
      -- The head stays, and is another key than the one that loses an occurrence further on.
      simp only [Entries.eraseCount?, horder, Option.map_eq_some_iff] at herase
      obtain ⟨left', herase, rfl⟩ := herase
      obtain ⟨hsorted, hkeys, htally, hzero⟩ := ih hrest herase
      refine ⟨sorted_cons.mpr ⟨fun q hq => hhead q (hkeys q hq), hsorted⟩, ?_, ?_, ?_⟩
      · intro q hq
        rcases List.mem_cons.mp hq with rfl | hq
        · exact List.mem_cons_self
        · exact List.mem_cons_of_mem _ (hkeys q hq)
      · intro q
        rw [tally, tally]
        by_cases hq : q = k
        · subst hq
          rw [if_pos rfl, if_pos rfl, if_neg (Ne.symm hne)]
        · rw [if_neg hq, if_neg hq]
          exact htally q
      · intro hmem
        rw [tally, if_neg hne]
        exact hzero ((List.mem_cons.mp hmem).resolve_left hne)

/-! ### Scans -/

theorem select_cons (pass : Key → Bool) (k : Key) (n : UInt32) (rest : List (Key × UInt32))
    (size size' : UInt64) :
    select pass ⟨(k, n) :: rest, size⟩ =
      (if pass k then List.replicate n.toNat k else []) ++ select pass ⟨rest, size'⟩ := rfl

/-- A scan for some keys is a scan for all of them, filtered. -/
theorem select_eq_filter (pass : Key → Bool) (e : Entries) :
    e.select pass = e.toList.filter pass := by
  obtain ⟨counts, size⟩ := e
  rw [toList]
  induction counts with
  | nil => rfl
  | cons entry rest ih =>
    obtain ⟨k, n⟩ := entry
    rw [select_cons pass k n rest size size, select_cons _ k n rest size size, if_pos rfl,
      List.filter_append, List.filter_replicate, ih]

theorem mem_keys_of_mem_toList {e : Entries} {key : Key} (h : key ∈ e.toList) :
    key ∈ keys e.counts := by
  obtain ⟨⟨k, n⟩, hentry, hkey⟩ := List.mem_flatMap.mp h
  obtain rfl := List.eq_of_mem_replicate hkey
  exact List.mem_map.mpr ⟨_, hentry, rfl⟩

/-- Every key is listed as often as its tally says. -/
theorem count_toList {e : Entries} (h : Sorted e.counts) (key : Key) :
    e.toList.count key = (tally key e.counts).toNat := by
  obtain ⟨counts, size⟩ := e
  simp only at h ⊢
  induction counts with
  | nil => rfl
  | cons entry rest ih =>
    obtain ⟨k, n⟩ := entry
    have hrest := ih (sorted_cons.mp h).2
    rw [toList, select_cons _ k n rest size size, if_pos rfl, List.count_append, ← toList, hrest,
      tally, List.count_replicate]
    by_cases hkey : key = k
    · subst hkey
      rw [tally_eq_zero h.head_notMem]
      simp
    · simp [hkey, Ne.symm hkey]

/-- The keys of a scan ascend. -/
theorem pairwise_toList {e : Entries} (h : Sorted e.counts) :
    e.toList.Pairwise fun a b => a.order b ≠ .gt := by
  obtain ⟨counts, size⟩ := e
  simp only at h ⊢
  induction counts with
  | nil => exact List.Pairwise.nil
  | cons entry rest ih =>
    obtain ⟨k, n⟩ := entry
    obtain ⟨hhead, hrest⟩ := sorted_cons.mp h
    rw [toList, select_cons _ k n rest size size, if_pos rfl, List.pairwise_append]
    -- The occurrences of one key are equal, and it is below whatever is listed after it.
    refine ⟨?_, ih hrest, ?_⟩
    · rw [List.pairwise_replicate, Key.order_eq_iff.mpr rfl]
      exact .inr (by simp)
    · intro a ha b hb
      obtain rfl := List.eq_of_mem_replicate ha
      rw [hhead b (mem_keys_of_mem_toList hb)]
      simp

end Entries

end GeometryIndex

import GeometryIndex.Proofs.Storage.Contents

/-!
# Storage — drift

The content of a map changes by one occurrence of a key at a time.  What a run of such updates
amounts to is read off its answers alone (`Journal.held`), and a key is held as often as it was
inserted, less its removals that succeeded (`count_held`).  The entries keep this in two words of
different width, one for each key and one for all of them, and are `Faithful` if neither shows.

While fewer keys are held than the wide word counts, entries are faithful exactly if no key is held
more often than the narrow one counts (`faithful_iff`).  It takes a long run to get past that point
(`faithful_of_length`), but neither word gives notice when it wraps around: a key inserted 2³² times
counts in the size, and is not listed.

* `Entries.faithful_throughout_iff`: when a whole run is faithful.
-/

namespace GeometryIndex

namespace Entries

/-- One occurrence of a key more or less. -/
inductive Update
  | insert (key : Key)
  | remove (key : Key)
  deriving DecidableEq, Repr

namespace Update

/-- Only a removal can fail, for want of an occurrence. -/
def succeeds (e : Entries) : Update → Bool
  | .insert _ => true
  | .remove key => (e.erase? key).isSome

/-- A removal that fails leaves the entries as they are. -/
def apply (e : Entries) : Update → Entries
  | .insert key => e.insert key
  | .remove key => (e.erase? key).getD e

end Update

/-- The updates of a run, each with its answer. -/
abbrev Journal : Type := List (Update × Bool)

namespace Journal

/-- The insertions of a key. -/
def inserted (key : Key) (j : Journal) : Nat := j.count (.insert key, true)

/-- The removals of a key that succeeded. -/
def removed (key : Key) (j : Journal) : Nat := j.count (.remove key, true)

/-- What the keys held become by an update with this answer. -/
def post (M : Multiset Key) : Update × Bool → Multiset Key
  | (.insert key, true) => key ::ₘ M
  | (.remove key, true) => M.erase key
  | (_, false) => M

/-- The keys held, each as often as the answers say. -/
def held (j : Journal) : Multiset Key := j.foldl post 0

end Journal

/-- The answers of updates to the given entries. -/
def journalFrom (e : Entries) : List Update → Journal
  | [] => []
  | u :: updates => (u, u.succeeds e) :: journalFrom (u.apply e) updates

def journal (updates : List Update) : Journal := empty.journalFrom updates

/-- The entries after a run that began with none. -/
def after (updates : List Update) : Entries := updates.foldl Update.apply empty

/-- The entries are what the journal amounts to. -/
structure Faithful (e : Entries) (j : Journal) : Prop where
  size : e.size.toNat = e.toList.length
  /-- A key is listed as often as it was inserted, less its removals. -/
  listed : ∀ key, e.toList.count key + j.removed key = j.inserted key
  ascending : e.toList.Pairwise fun a b => a.order b ≠ .gt
  /-- A removal succeeds until there were as many of them as insertions. -/
  removable : ∀ key, (Update.remove key).succeeds e = true ↔ j.removed key < j.inserted key
  /-- What is stored occurs. -/
  positive : ∀ entry ∈ e.counts, 1 ≤ entry.2
  /-- A removal takes both numbers down by one, and never from zero to the end of a word. -/
  unborrowed : ∀ key left, e.erase? key = some left →
    (tally key left.counts).toNat + 1 = (tally key e.counts).toNat ∧
      left.size.toNat + 1 = e.size.toNat

variable {e : Entries} {M : Multiset Key} {updates : List Update}

/-! ### What a run amounts to -/

theorem Represents.apply (h : e.Represents M) (u : Update) :
    (u.apply e).Represents (Journal.post M (u, u.succeeds e)) := by
  cases u with
  | insert key => exact h.insert key
  | remove key =>
    simp only [Update.apply, Update.succeeds]
    cases herase : e.erase? key with
    | some left => exact h.erase herase
    | none => exact h

theorem Represents.foldl_apply (h : e.Represents M) (updates : List Update) :
    (updates.foldl Update.apply e).Represents ((e.journalFrom updates).foldl Journal.post M) := by
  induction updates generalizing e M with
  | nil => exact h
  | cons u updates ih => exact ih (h.apply u)

/-- **The entries stand for the keys held**, round about the words. -/
theorem represents_after (updates : List Update) :
    (after updates).Represents (journal updates).held :=
  Represents.empty.foldl_apply updates

namespace Journal

theorem card_post_le (M : Multiset Key) (entry : Update × Bool) :
    (post M entry).card ≤ M.card + 1 := by
  obtain ⟨u, answer⟩ := entry
  cases answer with
  | false =>
    have hsame : post M (u, false) = M := by cases u <;> rfl
    rw [hsame]
    exact Nat.le_succ _
  | true =>
    cases u with
    | insert key => exact (Multiset.card_cons key M).le
    | remove key => exact (Multiset.card_le_card (Multiset.erase_le key M)).trans (Nat.le_succ _)

theorem card_foldl_post_le (j : Journal) (M : Multiset Key) :
    (j.foldl post M).card ≤ M.card + j.length := by
  induction j generalizing M with
  | nil => exact Nat.le_refl _
  | cons entry j ih =>
    have hrest := ih (post M entry)
    have hone := card_post_le M entry
    rw [List.foldl_cons, List.length_cons]
    omega

end Journal

theorem length_journalFrom (e : Entries) (updates : List Update) :
    (e.journalFrom updates).length = updates.length := by
  induction updates generalizing e with
  | nil => rfl
  | cons u updates ih => exact congrArg Nat.succ (ih (u.apply e))

/-- No more keys are held than there were updates. -/
theorem card_held_le (updates : List Update) : (journal updates).held.card ≤ updates.length := by
  have hcard := Journal.card_foldl_post_le (journal updates) 0
  rw [journal, length_journalFrom, Multiset.card_zero, Nat.zero_add] at hcard
  exact hcard

/-- One update in the account of a key. -/
theorem Represents.count_post (h : e.Represents M) (u : Update) (key : Key) :
    (Journal.post M (u, u.succeeds e)).count key +
        (if (u, u.succeeds e) == (.remove key, true) then 1 else 0) =
      M.count key + if (u, u.succeeds e) == (.insert key, true) then 1 else 0 := by
  cases u with
  | insert k =>
    by_cases hkey : key = k
    · simp [Journal.post, Update.succeeds, hkey]
    · simp [Journal.post, Update.succeeds, hkey, Ne.symm hkey]
  | remove k =>
    cases hsucceeds : (Update.remove k).succeeds e with
    | false => simp [Journal.post]
    | true =>
      by_cases hkey : key = k
      · subst hkey
        -- It is held, so that taking it away shows.
        have hheld := Multiset.one_le_count_iff_mem.mpr (h.mem_of_isSome hsucceeds)
        simpa [Journal.post] using Nat.sub_add_cancel hheld
      · simp [Journal.post, hkey, Ne.symm hkey]

theorem Represents.count_foldl_post (h : e.Represents M) (updates : List Update) (key : Key) :
    ((e.journalFrom updates).foldl Journal.post M).count key +
        (e.journalFrom updates).removed key =
      M.count key + (e.journalFrom updates).inserted key := by
  induction updates generalizing e M with
  | nil => rfl
  | cons u updates ih =>
    have hrest := ih (h.apply u)
    have hone := h.count_post u key
    simp only [journalFrom, List.foldl_cons, Journal.removed, Journal.inserted, List.count_cons]
      at hrest ⊢
    omega

/-- **A key is held as often as it was inserted, less its removals that succeeded.** -/
theorem count_held (updates : List Update) (key : Key) :
    (journal updates).held.count key + (journal updates).removed key =
      (journal updates).inserted key := by
  have hcount := Represents.empty.count_foldl_post updates key
  rw [Multiset.count_zero, Nat.zero_add] at hcount
  exact hcount

/-! ### Within the words -/

namespace Represents

/-- The tally of a key that is not held too often is its multiplicity. -/
theorem toNat_tally (h : e.Represents M) {key : Key} (hfits : M.count key < UInt32.size) :
    (Entries.tally key e.counts).toNat = M.count key := by
  rw [h.tally]
  exact UInt32.toNat_ofNat_of_lt' hfits

theorem toNat_size (h : e.Represents M) (hfits : M.card < UInt64.size) :
    e.size.toNat = M.card := by
  rw [h.size]
  exact UInt64.toNat_ofNat_of_lt' hfits

theorem positive (h : e.Represents M) (hfits : ∀ key, M.count key < UInt32.size) :
    ∀ entry ∈ e.counts, 1 ≤ entry.2 := by
  rintro ⟨key, n⟩ hentry
  have hmem : key ∈ M := h.listed key (List.mem_map.mpr ⟨_, hentry, rfl⟩)
  have htally := h.toNat_tally (hfits key)
  rw [h.sorted.tally_of_mem hentry] at htally
  rw [UInt32.le_iff_toNat_le, htally]
  exact Multiset.one_le_count_iff_mem.mpr hmem

theorem unborrowed (h : e.Represents M) (hfits : ∀ key, M.count key < UInt32.size)
    (hcard : M.card < UInt64.size) (key : Key) (left : Entries)
    (herase : e.erase? key = some left) :
    (Entries.tally key left.counts).toNat + 1 = (Entries.tally key e.counts).toNat ∧
      left.size.toNat + 1 = e.size.toNat := by
  have hmem : key ∈ M := h.mem_of_isSome (herase ▸ rfl)
  have hleft := h.erase herase
  have hcount : (M.erase key).count key + 1 = M.count key := by
    rw [Multiset.count_erase_self]
    exact Nat.sub_add_cancel (Multiset.one_le_count_iff_mem.mpr hmem)
  have hsize : (M.erase key).card + 1 = M.card := Multiset.card_erase_add_one hmem
  have hfits_key := hfits key
  rw [hleft.toNat_tally (by omega), h.toNat_tally hfits_key, hleft.toNat_size (by omega),
    h.toNat_size hcard]
  exact ⟨hcount, hsize⟩

end Represents

/-- **Entries are faithful as long as no key is held more often than a word of 32 bits counts**, and
no longer. -/
theorem faithful_iff (hcard : (journal updates).held.card < UInt64.size) :
    Faithful (after updates) (journal updates) ↔
      ∀ key, (journal updates).held.count key < UInt32.size := by
  have h := represents_after updates
  constructor
  · intro hfaithful key
    -- A tally is less than its word, and tells the multiplicity.
    have hlisted := hfaithful.listed key
    have hheld := count_held updates key
    have hword := h.count_toList key
    have hlt : (journal updates).held.count key % UInt32.size < UInt32.size :=
      Nat.mod_lt _ (by decide)
    omega
  · intro hfits
    have hmultiset := h.toList_eq hfits
    refine ⟨?_, fun key => ?_, pairwise_toList h.sorted, fun key => ?_, h.positive hfits,
      h.unborrowed hfits hcard⟩
    · rw [h.toNat_size hcard, ← hmultiset, Multiset.coe_card]
    · rw [← Multiset.coe_count, hmultiset]
      exact count_held updates key
    · rw [Update.succeeds, h.erase?_isSome (hfits key), ← Multiset.count_pos]
      have hheld := count_held updates key
      omega

/-- Short runs do not drift: a key is held 2³² times after as many updates at the earliest. -/
theorem faithful_of_length (hlength : updates.length < UInt32.size) :
    Faithful (after updates) (journal updates) := by
  have hcard := (card_held_le updates).trans_lt hlength
  refine (faithful_iff (hcard.trans (by decide))).mpr fun key => ?_
  exact (Multiset.count_le_card key _).trans_lt hcard

/-- **A run is faithful throughout exactly if it never holds a key 2³² times.**  At every point of
the run, the size is the number of keys listed; the list ascends and has every key as often as it
was inserted, less its removals that succeeded; a removal succeeds exactly while this is not zero,
and takes nothing below zero; and what is stored occurs.  The run never holds 2⁶⁴ keys, which is as
far as the size counts. -/
theorem faithful_throughout_iff (updates : List Update)
    (hcard : ∀ before, before <+: updates → (journal before).held.card < UInt64.size) :
    (∀ before, before <+: updates → Faithful (after before) (journal before)) ↔
      ∀ before, before <+: updates → ∀ key, (journal before).held.count key < UInt32.size :=
  forall_congr' fun before => forall_congr' fun hbefore => faithful_iff (hcard before hbefore)

/-- A key put in twice and removed once, another one put in, and one removed that never was in. -/
def shortRun : List Update :=
  [.insert (.ofRow 1), .insert (.ofRow 1), .remove (.ofRow 1), .insert (.ofRow 2),
    .remove (.ofRow 3)]

theorem faithful_throughout_iff_shortRun :
    (∀ before, before <+: shortRun → (journal before).held.card < UInt64.size) ∧
      (∀ before, before <+: shortRun → ∀ key, (journal before).held.count key < UInt32.size) ∧
      (∀ before, before <+: shortRun → Faithful (after before) (journal before)) ∧
      (after shortRun).toList = [.ofRow 1, .ofRow 2] := by
  have hcard : ∀ before, before <+: shortRun → (journal before).held.card ≤ 5 :=
    fun before hbefore => (card_held_le before).trans hbefore.length_le
  have hsize : ∀ before, before <+: shortRun → (journal before).held.card < UInt64.size :=
    fun before hbefore => (hcard before hbefore).trans_lt (by decide)
  have hfits : ∀ before, before <+: shortRun → ∀ key,
      (journal before).held.count key < UInt32.size :=
    fun before hbefore key =>
      ((Multiset.count_le_card _ _).trans (hcard before hbefore)).trans_lt (by decide)
  exact ⟨hsize, hfits, (faithful_throughout_iff shortRun hsize).mpr hfits, by decide⟩

/-! ### Past the end of a word -/

theorem after_append (updates : List Update) (u : Update) :
    after (updates ++ [u]) = u.apply (after updates) := List.foldl_append

/-- One key inserted again and again. -/
theorem after_replicate (key : Key) {n : Nat} (hn : 0 < n) :
    after (List.replicate n (.insert key)) = ⟨[(key, .ofNat n)], .ofNat n⟩ := by
  induction n, hn using Nat.le_induction with
  | base => rfl
  | succ n _ ih =>
    rw [List.replicate_succ', after_append, ih, Update.apply, insert, UInt64.ofNat_add]
    simp only [insertCount, Key.order_eq_iff.mpr (rfl : key = key), UInt32.ofNat_add]
    rfl

/-- A key without a box, inserted 2³² times. -/
def fullWord : List Update := List.replicate UInt32.size (.insert (.ofRow 1))

/-- **A key inserted 2³² times is not listed**, although the size counts every insertion; its entry
stays, with a count of zero, and a removal takes this to the end of the word. -/
theorem fullWord_forgotten :
    (journal fullWord).held.card < UInt64.size ∧ (after fullWord).size = 4294967296 ∧
      (after fullWord).toList = [] ∧ (after fullWord).counts = [(.ofRow 1, 0)] ∧
      (after fullWord).erase? (.ofRow 1) = some ⟨[(.ofRow 1, 4294967295)], 4294967295⟩ ∧
      ¬ Faithful (after fullWord) (journal fullWord) := by
  have hcard : (journal fullWord).held.card ≤ UInt32.size := by
    have hle := card_held_le fullWord
    rwa [fullWord, List.length_replicate] at hle
  have hafter : after fullWord = ⟨[(.ofRow 1, 0)], 4294967296⟩ :=
    after_replicate (.ofRow 1) (by decide)
  rw [hafter]
  refine ⟨hcard.trans_lt (by decide), rfl, rfl, rfl, by decide, fun hfaithful => ?_⟩
  exact absurd hfaithful.size (by decide)

end Entries

end GeometryIndex

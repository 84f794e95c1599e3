import GeometryIndex.Proofs.Storage.Reachable

/-!
# Storage — names, maps and stores after a change

A catalog changes in five ways: a store is added or closed, a map is created under a name that leads
nowhere or removed from under its name, or the content of a map is set.  For each of them: where
names lead afterwards (`Catalog.find?_create`, `Catalog.find?_remove`), which maps are removed
(`Catalog.isRemoved_create`, `Catalog.isRemoved_remove`), and which stores are closed
(`Catalog.isStoreClosed_closeStore`).  Removing a map does nothing else
(`Catalog.WellFormed.removesOnly`).  What is done through a handle changes the content of its map
at most (`Catalog.Refills`), and shows no other content.
-/

namespace GeometryIndex

namespace Catalog

variable {c c' : Catalog} {storage : Storage} {name : String} {map : MapId} {given : List MapHandle}

/-! ### Names -/

/-- What is left of a directory without one key. -/
theorem lookup_filter_ne {α β : Type} [BEq α] [LawfulBEq α] [DecidableEq α] (key sought : α)
    (entries : List (α × β)) :
    (entries.filter fun entry => entry.1 ≠ key).lookup sought =
      if sought = key then none else entries.lookup sought := by
  induction entries with
  | nil => simp
  | cons entry entries ih =>
    obtain ⟨k, value⟩ := entry
    by_cases hk : k = key
    · subst hk
      rw [List.filter_cons_of_neg (by simp), ih, List.lookup_cons]
      by_cases hsought : sought = k
      · rw [if_pos hsought, if_pos hsought]
      · rw [if_neg hsought, if_neg hsought, beq_eq_false_iff_ne.mpr hsought]
    · rw [List.filter_cons_of_pos (by simpa using hk), List.lookup_cons, List.lookup_cons, ih]
      by_cases hsought : sought = k
      · subst hsought
        rw [if_neg hk, if_neg hk]
      · rw [beq_eq_false_iff_ne.mpr hsought]

theorem find?_create (storage' : Storage) (name' : String) :
    (c.create storage name).find? storage' name' =
      if (storage', name') = (storage, name) then some ⟨c.maps.length⟩
      else c.find? storage' name' := by
  rw [find?, create, List.lookup_cons]
  by_cases h : (storage', name') = (storage, name)
  · rw [if_pos h, h, beq_self_eq_true]
  · rw [if_neg h, beq_eq_false_iff_ne.mpr h]
    rfl

theorem find?_remove (storage' : Storage) (name' : String) :
    (c.remove storage name map).find? storage' name' =
      if (storage', name') = (storage, name) then none else c.find? storage' name' :=
  lookup_filter_ne _ _ _

/-- A name that leads to a map still does when a map is created under a name that led nowhere. -/
theorem find?_create_of_some {storage' : Storage} {name' : String}
    (hnone : c.find? storage name = none) (h : c.find? storage' name' = some map) :
    (c.create storage name).find? storage' name' = some map := by
  rw [find?_create, if_neg ?_, h]
  rintro heq
  obtain ⟨rfl, rfl⟩ := Prod.mk.inj heq
  rw [hnone] at h
  cases h

/-- A map has one name in one storage at most. -/
theorem WellFormed.find?_injective (h : c.WellFormed) {storage' : Storage} {name' : String}
    (hmap : c.find? storage name = some map) (hmap' : c.find? storage' name' = some map) :
    storage = storage' ∧ name = name' := by
  have heq := List.inj_on_of_nodup_map h.distinct (mem_directory_of_find? hmap)
    (mem_directory_of_find? hmap') rfl
  exact Prod.mk.inj (Prod.mk.inj heq).1

theorem WellFormed.isRemoved_of_find? (h : c.WellFormed) (hmap : c.find? storage name = some map) :
    c.isRemoved map = false :=
  h.live _ (mem_directory_of_find? hmap)

/-! ### Maps and stores -/

theorem lt_of_isRemoved (h : c.isRemoved map = false) : map.number < c.maps.length := by
  obtain ⟨m, hm, -⟩ := isRemoved_eq_false h
  exact (List.getElem?_eq_some_iff.mp hm).1

theorem isRemoved_create (h : map.number < c.maps.length) :
    (c.create storage name).isRemoved map = c.isRemoved map := by
  rw [create, isRemoved, isRemoved, List.getElem?_append_left h]

theorem isRemoved_remove (h : map.number < c.maps.length) (m : MapId) :
    (c.remove storage name map).isRemoved m = (decide (m = map) || c.isRemoved m) := by
  by_cases hm : m = map
  · subst hm
    simp [remove, isRemoved, h]
  · rw [isRemoved_remove_of_ne hm, decide_eq_false hm, Bool.false_or]

/-- The storage of a store. -/
def storageOf? (c : Catalog) (store : StoreId) : Option Storage :=
  (c.stores[store.number]?).map StoreState.storage

theorem storageOf?_of_getElem? {store : StoreId} {s : StoreState}
    (h : c.stores[store.number]? = some s) : c.storageOf? store = some s.storage :=
  congrArg _ h

theorem lt_of_storageOf? {store : StoreId} (h : c.storageOf? store = some storage) :
    store.number < c.stores.length := by
  obtain ⟨s, hs, -⟩ := Option.map_eq_some_iff.mp h
  exact (List.getElem?_eq_some_iff.mp hs).1

theorem storageOf?_closeStore (store s : StoreId) :
    (c.closeStore store).storageOf? s = c.storageOf? s := by
  rw [closeStore, storageOf?, storageOf?, List.getElem?_modify]
  cases c.stores[s.number]? with
  | none => rfl
  | some state => by_cases hs : store.number = s.number <;> simp [hs]

theorem isStoreClosed_closeStore {s : StoreId} (h : s.number < c.stores.length)
    (store : StoreId) : (c.closeStore store).isStoreClosed s =
      (decide (s = store) || c.isStoreClosed s) := by
  by_cases hs : s = store
  · subst hs
    simp [closeStore, isStoreClosed, h]
  · have hnumber : store.number ≠ s.number := fun heq => hs (congrArg StoreId.mk heq).symm
    rw [closeStore, isStoreClosed, List.getElem?_modify_ne _ _ hnumber, decide_eq_false hs,
      Bool.false_or]
    rfl

/-- A store that is there is the same after another one is added. -/
theorem getElem?_addStore {store : StoreId} (h : store.number < c.stores.length) :
    (c.addStore storage).stores[store.number]? = c.stores[store.number]? :=
  List.getElem?_append_left h

/-! ### Handles -/

variable {handle : MapHandle}

theorem isClosed_closeStore (h : handle.store.number < c.stores.length) (store : StoreId) :
    (c.closeStore store).isClosed handle =
      (decide (handle.store = store) || c.isClosed handle) := by
  rw [isClosed, isStoreClosed_closeStore h, Bool.or_assoc]
  rfl

theorem isClosed_remove (h : map.number < c.maps.length) (handle : MapHandle) :
    (c.remove storage name map).isClosed handle =
      (decide (handle.map = map) || c.isClosed handle) := by
  rw [isClosed, isRemoved_remove h, Bool.or_left_comm]
  rfl

theorem isClosed_setEntries (e : Entries) :
    (c.setEntries map e).isClosed handle = c.isClosed handle := by
  rw [isClosed, isRemoved_setEntries]
  rfl

/-- The map is removed, which closes the handles on it and frees its name.  Other maps, handles and
names, and all contents, are as before. -/
structure RemovesOnly (c : Catalog) (map : MapId) (c' : Catalog) : Prop where
  isRemoved : ∀ m, c'.isRemoved m = (decide (m = map) || c.isRemoved m)
  isClosed : ∀ handle, c'.isClosed handle = (decide (handle.map = map) || c.isClosed handle)
  find? : ∀ storage name, c'.find? storage name =
    if c.find? storage name = some map then none else c.find? storage name
  entries : ∀ m, c'.entries m = c.entries m

/-- **Removing a map from under its name** does nothing else. -/
theorem WellFormed.removesOnly (h : c.WellFormed) (hfind : c.find? storage name = some map) :
    c.RemovesOnly map (c.remove storage name map) := by
  have hcreated := lt_of_isRemoved (h.isRemoved_of_find? hfind)
  refine ⟨isRemoved_remove hcreated, isClosed_remove hcreated, fun storage' name' => ?_,
    entries_remove⟩
  rw [find?_remove]
  -- Only one name in one storage leads to the map.
  by_cases hname : c.find? storage' name' = some map
  · obtain ⟨rfl, rfl⟩ := h.find?_injective hname hfind
    rw [if_pos rfl, if_pos hname]
  · rw [if_neg ?_, if_neg hname]
    rintro heq
    obtain ⟨rfl, rfl⟩ := Prod.mk.inj heq
    exact hname hfind

/-! ### Contents -/

/-- `c'` is `c`, or differs from it in the content of one map. -/
def Refills (c : Catalog) (map : MapId) (c' : Catalog) : Prop :=
  c' = c ∨ ∃ e, c' = c.setEntries map e

theorem Refills.directory_eq {c' : Catalog} (h : c.Refills map c') :
    c'.directory = c.directory := by
  rcases h with rfl | ⟨e, rfl⟩ <;> rfl

theorem entries_setEntries_of_ne {m : MapId} (hne : m ≠ map) (e : Entries) :
    (c.setEntries map e).entries m = c.entries m := by
  rw [setEntries, entries, List.getElem?_modify_ne _ _ (number_ne hne.symm)]
  rfl

theorem Refills.isClosed_eq {c' : Catalog} (h : c.Refills map c') (handle : MapHandle) :
    c'.isClosed handle = c.isClosed handle := by
  rcases h with rfl | ⟨e, rfl⟩
  · rfl
  · exact isClosed_setEntries e

theorem Refills.entries_of_ne {c' : Catalog} (h : c.Refills map c') {m : MapId} (hne : m ≠ map) :
    c'.entries m = c.entries m := by
  rcases h with rfl | ⟨e, rfl⟩
  · rfl
  · exact entries_setEntries_of_ne hne e

end Catalog

namespace MapHandle

variable (handle : MapHandle) (key : Key) (c : Catalog)

theorem refills_add : c.Refills handle.map (handle.add key c).catalog := by
  cases hclosed : c.isClosed handle with
  | true => exact .inl (by rw [add_of_closed hclosed])
  | false => exact .inr ⟨_, by rw [add_of_open hclosed]⟩

theorem refills_remove : c.Refills handle.map (handle.remove key c).catalog := by
  cases hclosed : c.isClosed handle with
  | true => exact .inl (by rw [remove_of_closed hclosed])
  | false =>
    cases herase : (c.entries handle.map).erase? key with
    | some left => exact .inr ⟨_, by rw [remove_of_some hclosed herase]⟩
    | none => exact .inl (by rw [remove_of_none hclosed herase])

theorem refills_clear : c.Refills handle.map (handle.clear c).catalog := by
  cases hclosed : c.isClosed handle with
  | true => exact .inl (by rw [clear_of_closed hclosed])
  | false => exact .inr ⟨_, by rw [clear_of_open hclosed]⟩

/-- The content of another map does not show through a handle. -/
theorem answer_entries_of_ne {handle : MapHandle} {map : MapId} (hne : map ≠ handle.map)
    (e : Entries) : (handle.entries (c.setEntries map e)).answer = (handle.entries c).answer := by
  have hsame : (c.setEntries map e).isClosed handle = c.isClosed handle :=
    Catalog.isClosed_setEntries e
  cases hclosed : c.isClosed handle with
  | true => rw [entries_of_closed hclosed, entries_of_closed (hsame.trans hclosed)]
  | false =>
    rw [entries_of_open hclosed, entries_of_open (hsame.trans hclosed),
      Catalog.entries_setEntries_of_ne hne.symm]

end MapHandle

end GeometryIndex

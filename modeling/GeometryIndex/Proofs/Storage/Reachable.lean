import GeometryIndex.Proofs.Storage.Contents
import GeometryIndex.Proofs.Storage.Effects
import Mathlib.Logic.Function.Basic

/-!
# Storage — what operations can reach

`Reachable c M` says that operations on stores and maps lead from the empty catalog to `c`, and that
those of them that succeeded put the keys of `M map` into each map.  Operations through any handle
are allowed, in any order, also through handles that are closed, or that no operation ever gave.

Two facts hold of all such catalogs:

* `Reachable.wellFormed`: a name leads to a map of its own that was not removed, and no storage is
  the private one of a store to come;
* `Reachable.holds`: the entries of every map stand for its multiset.
-/

namespace GeometryIndex

/-- What every map contains. -/
abbrev Contents : Type := MapId → Multiset Key

namespace Catalog

variable {c : Catalog} {M : Contents} {map : MapId} {storage : Storage} {name : String}

/-- The private storages are those of the stores that there are. -/
def Knows (c : Catalog) (storage : Storage) : Prop :=
  ∀ number, storage = .ephemeral number → number < c.stores.length

/-- A catalog that operations lead to, and what they put into the maps. -/
inductive Reachable : Catalog → Contents → Prop
  | empty : Reachable .empty fun _ => 0
  | openStore {c : Catalog} {M : Contents} (h : Reachable c M) (storage : Storage)
      (hknown : c.Knows storage) : Reachable (storage.openStore c).catalog M
  | openEphemeral {c : Catalog} {M : Contents} (h : Reachable c M) :
      Reachable (Storage.openEphemeral c).catalog M
  | close {c : Catalog} {M : Contents} (h : Reachable c M) (store : StoreId) :
      Reachable (store.close c).catalog M
  | openMap {c : Catalog} {M : Contents} (h : Reachable c M) (store : StoreId) (name : String) :
      Reachable (store.openMap name c).catalog M
  | removeMap {c : Catalog} {M : Contents} (h : Reachable c M) (store : StoreId)
      (handle : MapHandle) : Reachable (store.removeMap handle c).catalog M
  | add {c : Catalog} {M : Contents} (h : Reachable c M) (handle : MapHandle) (key : Key)
      (hok : (handle.add key c).answer = .ok ()) :
      Reachable (handle.add key c).catalog
        (Function.update M handle.map (key ::ₘ M handle.map))
  | remove {c : Catalog} {M : Contents} (h : Reachable c M) (handle : MapHandle) (key : Key)
      (hok : (handle.remove key c).answer = .ok true) :
      Reachable (handle.remove key c).catalog
        (Function.update M handle.map ((M handle.map).erase key))
  | clear {c : Catalog} {M : Contents} (h : Reachable c M) (handle : MapHandle)
      (hok : (handle.clear c).answer = .ok ()) :
      Reachable (handle.clear c).catalog (Function.update M handle.map 0)

/-! ### The catalog after a change -/

theorem number_ne {map map' : MapId} (h : map ≠ map') : map.number ≠ map'.number :=
  fun hnumber => h (congrArg MapId.mk hnumber)

theorem entries_setEntries (hmap : map.number < c.maps.length) (e : Entries) (m : MapId) :
    (c.setEntries map e).entries m = if m = map then e else c.entries m := by
  by_cases hm : m = map
  · subst hm
    simp [setEntries, entries, hmap]
  · rw [if_neg hm, setEntries, entries, List.getElem?_modify_ne _ _ (number_ne (Ne.symm hm))]
    rfl

theorem isRemoved_setEntries (e : Entries) (m : MapId) :
    (c.setEntries map e).isRemoved m = c.isRemoved m := by
  rw [setEntries, isRemoved, isRemoved, List.getElem?_modify]
  cases c.maps[m.number]? with
  | none => rfl
  | some state => by_cases hm : map.number = m.number <;> simp [hm]

/-- A new map is as empty as one that is not there. -/
theorem entries_create (m : MapId) : (c.create storage name).entries m = c.entries m := by
  rw [create, entries, entries, List.getElem?_append]
  by_cases hm : m.number < c.maps.length
  · rw [if_pos hm]
  · rw [if_neg hm, List.getElem?_eq_none (Nat.le_of_not_lt hm)]
    cases m.number - c.maps.length <;> rfl

theorem isRemoved_create_of_false {m : MapId} (h : c.isRemoved m = false) :
    (c.create storage name).isRemoved m = false := by
  obtain ⟨state, hm, hremoved⟩ := isRemoved_eq_false h
  have hlt := (List.getElem?_eq_some_iff.mp hm).1
  rw [create, isRemoved, List.getElem?_append_left hlt, hm]
  exact hremoved

theorem isRemoved_create_new : (c.create storage name).isRemoved ⟨c.maps.length⟩ = false := by
  simp [create, isRemoved]

theorem entries_remove (m : MapId) : (c.remove storage name map).entries m = c.entries m := by
  rw [remove, entries, entries, List.getElem?_modify]
  cases c.maps[m.number]? with
  | none => rfl
  | some state => by_cases hm : map.number = m.number <;> simp [hm]

theorem isRemoved_remove_of_ne {m : MapId} (hm : m ≠ map) :
    (c.remove storage name map).isRemoved m = c.isRemoved m := by
  rw [remove, isRemoved, List.getElem?_modify_ne _ _ (number_ne (Ne.symm hm))]
  rfl

theorem mem_directory_of_find? (h : c.find? storage name = some map) :
    ((storage, name), map) ∈ c.directory := by
  rw [find?, List.lookup_eq_some_iff] at h
  obtain ⟨before, after, hdirectory, -⟩ := h
  rw [hdirectory]
  exact List.mem_append_right _ List.mem_cons_self

/-- An operation that opens a map changes nothing, or creates a map under a name not in use. -/
theorem openMap_catalog (c : Catalog) (store : StoreId) (name : String) :
    (store.openMap name c).catalog = c ∨
      ∃ s ∈ c.stores, c.find? s.storage name = none ∧
        (store.openMap name c).catalog = c.create s.storage name := by
  cases hclosed : c.isStoreClosed store with
  | true => exact .inl (by rw [StoreId.openMap_of_closed hclosed])
  | false =>
    obtain ⟨s, hs, hopen⟩ := isStoreClosed_eq_false hclosed
    cases hfind : c.find? s.storage name with
    | some map => exact .inl (by rw [StoreId.openMap_of_some hs hopen hfind])
    | none =>
      exact .inr ⟨s, List.mem_of_getElem? hs, hfind,
        by rw [StoreId.openMap_of_none hs hopen hfind]⟩

/-- An operation that removes a map changes nothing, or removes the one that has the name. -/
theorem removeMap_catalog (c : Catalog) (store : StoreId) (handle : MapHandle) :
    (store.removeMap handle c).catalog = c ∨
      ∃ storage map, c.find? storage handle.name = some map ∧
        (store.removeMap handle c).catalog = c.remove storage handle.name map := by
  cases hclosed : c.isStoreClosed store with
  | true => exact .inl (by rw [StoreId.removeMap_of_closed hclosed])
  | false =>
    obtain ⟨s, hs, hopen⟩ := isStoreClosed_eq_false hclosed
    cases hfind : c.find? s.storage handle.name with
    | some map =>
      exact .inr ⟨s.storage, map, hfind, by rw [StoreId.removeMap_of_some hs hopen hfind]⟩
    | none => exact .inl (by rw [StoreId.removeMap_of_none hs hopen hfind])

/-- A key that was removed was there. -/
theorem erase?_of_remove {handle : MapHandle} {key : Key}
    (hok : (handle.remove key c).answer = .ok true) :
    ∃ left, (c.entries handle.map).erase? key = some left := by
  cases herase : (c.entries handle.map).erase? key with
  | some left => exact ⟨left, rfl⟩
  | none =>
    rw [MapHandle.remove_of_none (MapHandle.isClosed_of_ok hok) herase] at hok
    cases hok

/-! ### Names and storages -/

/-- What the directory and the stores of a catalog satisfy. -/
structure WellFormed (c : Catalog) : Prop where
  live : ∀ entry ∈ c.directory, c.isRemoved entry.2 = false
  distinct : (c.directory.map Prod.snd).Nodup
  directory : ∀ entry ∈ c.directory, c.Knows entry.1.1
  stores : ∀ s ∈ c.stores, c.Knows s.storage

namespace WellFormed

theorem empty : WellFormed .empty where
  live _ h := absurd h List.not_mem_nil
  distinct := List.nodup_nil
  directory _ h := absurd h List.not_mem_nil
  stores _ h := absurd h List.not_mem_nil

theorem addStore (h : c.WellFormed)
    (hknown : ∀ number, storage = .ephemeral number → number < c.stores.length + 1) :
    (c.addStore storage).WellFormed := by
  have hlength : (c.addStore storage).stores.length = c.stores.length + 1 := by
    simp [Catalog.addStore]
  have hmono : ∀ storage', c.Knows storage' → (c.addStore storage).Knows storage' := by
    intro storage' hknows number hnumber
    rw [hlength]
    exact Nat.lt_succ_of_lt (hknows number hnumber)
  refine ⟨h.live, h.distinct, fun entry hentry => hmono _ (h.directory entry hentry), ?_⟩
  intro s hs
  rcases List.mem_append.mp hs with hs | hs
  · exact hmono _ (h.stores s hs)
  · obtain rfl := List.mem_singleton.mp hs
    intro number hnumber
    rw [hlength]
    exact hknown number hnumber

theorem closeStore (h : c.WellFormed) (store : StoreId) : (c.closeStore store).WellFormed := by
  have hknows : ∀ storage, c.Knows storage → (c.closeStore store).Knows storage := by
    intro storage hknows number hnumber
    simpa [Catalog.closeStore] using hknows number hnumber
  refine ⟨h.live, h.distinct, fun entry hentry => hknows _ (h.directory entry hentry), ?_⟩
  intro s hs
  obtain ⟨i, hi⟩ := List.mem_iff_getElem?.mp hs
  rw [Catalog.closeStore, List.getElem?_modify] at hi
  obtain ⟨s', hs', rfl⟩ := Option.map_eq_some_iff.mp hi
  have hstorage := hknows _ (h.stores s' (List.mem_of_getElem? hs'))
  by_cases hstore : store.number = i
  · rw [if_pos hstore]
    exact hstorage
  · rw [if_neg hstore]
    exact hstorage

theorem create (h : c.WellFormed) (hknown : c.Knows storage) (name : String) :
    (c.create storage name).WellFormed where
  live entry hentry := by
    rcases List.mem_cons.mp hentry with rfl | hentry
    · exact isRemoved_create_new
    · exact isRemoved_create_of_false (h.live entry hentry)
  distinct := by
    refine List.nodup_cons.mpr ⟨fun hmem => ?_, h.distinct⟩
    -- The number of the new map is that of no map so far.
    obtain ⟨entry, hentry, hmap⟩ := List.mem_map.mp hmem
    obtain ⟨state, hstate, -⟩ := isRemoved_eq_false (h.live entry hentry)
    rw [hmap] at hstate
    exact Nat.lt_irrefl _ (List.getElem?_eq_some_iff.mp hstate).1
  directory entry hentry := by
    rcases List.mem_cons.mp hentry with rfl | hentry
    · exact hknown
    · exact h.directory entry hentry
  stores := h.stores

theorem remove (h : c.WellFormed) (hfind : c.find? storage name = some map) :
    (c.remove storage name map).WellFormed where
  live entry hentry := by
    obtain ⟨hentry, hname⟩ := List.mem_filter.mp hentry
    have hne : entry.2 ≠ map := by
      intro hmap
      -- Maps are distinct, so the entry of the removed map is the one that was removed.
      have heq := List.inj_on_of_nodup_map h.distinct hentry (mem_directory_of_find? hfind) hmap
      simp [heq] at hname
    rw [isRemoved_remove_of_ne hne]
    exact h.live entry hentry
  distinct := (List.filter_sublist.map _).nodup h.distinct
  directory entry hentry := h.directory entry (List.mem_filter.mp hentry).1
  stores := h.stores

theorem setEntries (h : c.WellFormed) (map : MapId) (e : Entries) :
    (c.setEntries map e).WellFormed where
  live entry hentry := (isRemoved_setEntries e entry.2).trans (h.live entry hentry)
  distinct := h.distinct
  directory := h.directory
  stores := h.stores

end WellFormed

/-- **A name leads to a map of its own that is there.** -/
theorem Reachable.wellFormed (h : Reachable c M) : c.WellFormed := by
  induction h with
  | empty => exact .empty
  | openStore _ _ hknown ih => exact ih.addStore fun n hn => Nat.lt_succ_of_lt (hknown n hn)
  | @openEphemeral c _ _ ih =>
    refine ih.addStore fun n hn => ?_
    obtain rfl := Storage.ephemeral.inj hn
    exact Nat.lt_succ_self _
  | close _ store ih => exact ih.closeStore store
  | @openMap c _ _ store name ih =>
    rcases openMap_catalog c store name with hsame | ⟨s, hs, -, hcreate⟩
    · rw [hsame]
      exact ih
    · rw [hcreate]
      exact ih.create (ih.stores s hs) name
  | @removeMap c _ _ store handle ih =>
    rcases removeMap_catalog c store handle with hsame | ⟨storage, map, hfind, hremove⟩
    · rw [hsame]
      exact ih
    · rw [hremove]
      exact ih.remove hfind
  | add _ _ _ hok ih =>
    rw [MapHandle.add_of_open (MapHandle.isClosed_of_ok hok)]
    exact ih.setEntries _ _
  | remove _ _ _ hok ih =>
    obtain ⟨left, herase⟩ := erase?_of_remove hok
    rw [MapHandle.remove_of_some (MapHandle.isClosed_of_ok hok) herase]
    exact ih.setEntries _ _
  | clear _ _ hok ih =>
    rw [MapHandle.clear_of_open (MapHandle.isClosed_of_ok hok)]
    exact ih.setEntries _ _

/-! ### Contents -/

/-- The entries of every map stand for its multiset, and maps to come have no keys. -/
structure Holds (c : Catalog) (M : Contents) : Prop where
  entries : ∀ map, (c.entries map).Represents (M map)
  unborn : ∀ map : MapId, c.maps.length ≤ map.number → M map = 0

namespace Holds

theorem empty : Holds .empty fun _ => 0 where
  entries _ := .empty
  unborn _ _ := rfl

theorem create (h : c.Holds M) (storage : Storage) (name : String) :
    (c.create storage name).Holds M where
  -- The new map was yet to come, where there were no keys.
  entries map := by
    rw [entries_create]
    exact h.entries map
  unborn map hmap := h.unborn map (Nat.le_of_succ_le (by simpa [Catalog.create] using hmap))

theorem remove (h : c.Holds M) (storage : Storage) (name : String) (map : MapId) :
    (c.remove storage name map).Holds M where
  entries m := by
    rw [entries_remove]
    exact h.entries m
  unborn m hm := h.unborn m (by simpa [Catalog.remove] using hm)

/-- The content of one map replaced, in the catalog and in what it stands for. -/
theorem setEntries (h : c.Holds M) (hmap : map.number < c.maps.length) {e : Entries}
    {N : Multiset Key} (he : e.Represents N) :
    (c.setEntries map e).Holds (Function.update M map N) where
  entries m := by
    rw [entries_setEntries hmap, Function.update_apply]
    by_cases hm : m = map
    · rw [if_pos hm, if_pos hm]
      exact he
    · rw [if_neg hm, if_neg hm]
      exact h.entries m
  unborn m hm := by
    have hlength : c.maps.length ≤ m.number := by simpa [Catalog.setEntries] using hm
    have hne : m ≠ map := by
      rintro rfl
      exact Nat.not_lt_of_le hlength hmap
    rw [Function.update_of_ne hne]
    exact h.unborn m hlength

end Holds

/-- **The entries of every map stand for what successful operations put into it.** -/
theorem Reachable.holds (h : Reachable c M) : c.Holds M := by
  induction h with
  | empty => exact .empty
  | openStore _ _ _ ih => exact ⟨ih.entries, ih.unborn⟩
  | openEphemeral _ ih => exact ⟨ih.entries, ih.unborn⟩
  | close _ _ ih => exact ⟨ih.entries, ih.unborn⟩
  | @openMap c _ _ store name ih =>
    rcases openMap_catalog c store name with hsame | ⟨s, -, -, hcreate⟩
    · rw [hsame]
      exact ih
    · rw [hcreate]
      exact ih.create s.storage name
  | @removeMap c _ _ store handle ih =>
    rcases removeMap_catalog c store handle with hsame | ⟨storage, map, -, hremove⟩
    · rw [hsame]
      exact ih
    · rw [hremove]
      exact ih.remove storage handle.name map
  | add _ handle key hok ih =>
    have hopen := MapHandle.isClosed_of_ok hok
    rw [MapHandle.add_of_open hopen]
    exact ih.setEntries (lt_of_isClosed hopen) ((ih.entries handle.map).insert key)
  | remove _ handle _ hok ih =>
    have hopen := MapHandle.isClosed_of_ok hok
    obtain ⟨left, herase⟩ := erase?_of_remove hok
    rw [MapHandle.remove_of_some hopen herase]
    exact ih.setEntries (lt_of_isClosed hopen) ((ih.entries handle.map).erase herase)
  | clear _ _ hok ih =>
    have hopen := MapHandle.isClosed_of_ok hok
    rw [MapHandle.clear_of_open hopen]
    exact ih.setEntries (lt_of_isClosed hopen) .empty

end Catalog

end GeometryIndex

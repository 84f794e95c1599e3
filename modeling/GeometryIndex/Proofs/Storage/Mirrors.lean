import GeometryIndex.Proofs.Storage.Names

/-!
# Storage — catalogs that mirror a name

A catalog may hold much beside the maps that were opened under one name in one storage.
`Catalog.Mirrors` compares it with a catalog that holds nothing else: an embedding says which of its
maps and stores the others correspond to, since they are numbered differently.

* `Catalog.Mirrors.isClosed_eq`, `Catalog.Mirrors.entries_eq`: what corresponds looks alike;
* `Catalog.Mirrors.setEntries`, `closeStore`, `remove`, `addStore`, `create`: a change made to both
  leaves them so, with an embedding that a new map or store is added to;
* `Catalog.Mirrors.setEntries_whole` and its like: so does a change of the larger one that is made
  to what does not correspond to anything.
-/

namespace GeometryIndex

/-! ### Lists picked out of lists -/

/-- The elements of `part` are those that `whole` has at the given places, in order. -/
def Picks {α : Type} (places : List Nat) (whole part : List α) : Prop :=
  part.map some = places.map fun k => whole[k]?

namespace Picks

variable {α : Type} {places : List Nat} {whole part : List α} {i k : Nat}

theorem empty (whole : List α) : Picks [] whole [] := rfl

theorem length_eq (h : Picks places whole part) : part.length = places.length := by
  simpa using congrArg List.length h

theorem getElem?_eq (h : Picks places whole part) (hk : places[i]? = some k) :
    part[i]? = whole[k]? := by
  have hi : (part.map some)[i]? = (places.map fun k => whole[k]?)[i]? := congrArg (·[i]?) h
  rw [List.getElem?_map, List.getElem?_map, hk] at hi
  obtain ⟨a, ha, hka⟩ := Option.map_eq_some_iff.mp hi
  rw [ha, hka]

theorem lt_of_mem (h : Picks places whole part) (hk : k ∈ places) : k < whole.length := by
  obtain ⟨i, hi⟩ := List.mem_iff_getElem?.mp hk
  have hlt : i < part.length := h.length_eq ▸ (List.getElem?_eq_some_iff.mp hi).1
  have hpart := h.getElem?_eq hi
  rw [List.getElem?_eq_getElem hlt] at hpart
  exact (List.getElem?_eq_some_iff.mp hpart.symm).1

/-- The same change of corresponding elements. -/
theorem modify (h : Picks places whole part) (hnodup : places.Nodup) (hk : places[i]? = some k)
    (change : α → α) : Picks places (whole.modify k change) (part.modify i change) := by
  refine List.ext_getElem? fun j => ?_
  rw [List.getElem?_map, List.getElem?_map, List.getElem?_modify]
  cases hj : places[j]? with
  | none =>
    have hnone : part[j]? = none := by
      rw [List.getElem?_eq_none_iff, h.length_eq]
      exact List.getElem?_eq_none_iff.mp hj
    rw [hnone]
    rfl
  | some k' =>
    have hsame : i = j ↔ k = k' := by
      rw [← List.getElem?_inj (List.getElem?_eq_some_iff.mp hk).1 hnodup, hk, hj, Option.some_inj]
    have hlt : j < part.length := h.length_eq ▸ (List.getElem?_eq_some_iff.mp hj).1
    obtain ⟨a, ha⟩ : ∃ a, part[j]? = some a := ⟨_, List.getElem?_eq_getElem hlt⟩
    rw [Option.map_some, List.getElem?_modify, ← h.getElem?_eq hj, ha]
    simp [hsame]

/-- A change of an element that nothing corresponds to. -/
theorem modify_whole (h : Picks places whole part) (hk : k ∉ places) (change : α → α) :
    Picks places (whole.modify k change) part := by
  rw [Picks, h]
  refine List.map_congr_left fun k' hk' => ?_
  have hne : k ≠ k' := fun heq => hk (heq ▸ hk')
  rw [List.getElem?_modify_ne _ _ hne]

theorem append_whole (h : Picks places whole part) (a : α) : Picks places (whole ++ [a]) part := by
  rw [Picks, h]
  refine List.map_congr_left fun k hk => ?_
  rw [List.getElem?_append_left (h.lt_of_mem hk)]

theorem append (h : Picks places whole part) (a : α) :
    Picks (places ++ [whole.length]) (whole ++ [a]) (part ++ [a]) := by
  rw [Picks, List.map_append, List.map_append, h.append_whole a]
  simp

theorem nodup_append (h : Picks places whole part) (hnodup : places.Nodup) :
    (places ++ [whole.length]).Nodup := by
  rw [List.nodup_append]
  refine ⟨hnodup, List.nodup_singleton _, fun k hk k' hk' => ?_⟩
  rw [List.mem_singleton.mp hk']
  exact Nat.ne_of_lt (h.lt_of_mem hk)

end Picks

/-! ### Embeddings -/

/-- The numbers that the maps and the stores of a catalog have in another one, in order. -/
structure Embedding where
  maps : List Nat
  stores : List Nat

namespace Embedding

def empty : Embedding := ⟨[], []⟩

def Map (f : Embedding) (m m' : MapId) : Prop := f.maps[m.number]? = some m'.number

def Store (f : Embedding) (s s' : StoreId) : Prop := f.stores[s.number]? = some s'.number

/-- The embedding with a map more that is created in both catalogs. -/
def addMap (f : Embedding) (number : Nat) : Embedding := { f with maps := f.maps ++ [number] }

/-- The embedding with a store more that is added to both catalogs. -/
def addStore (f : Embedding) (number : Nat) : Embedding :=
  { f with stores := f.stores ++ [number] }

/-- What corresponds in one embedding does in another one, and what else does is new to the larger
catalog. -/
structure Extends (f g : Embedding) (c : Catalog) : Prop where
  map : ∀ {m m'}, f.Map m m' → g.Map m m'
  store : ∀ {s s'}, f.Store s s' → g.Store s s'
  maps_new : ∀ k ∈ g.maps, k ∈ f.maps ∨ c.maps.length ≤ k
  stores_new : ∀ k ∈ g.stores, k ∈ f.stores ∨ c.stores.length ≤ k

variable {f g : Embedding} {c : Catalog}

theorem Extends.refl (f : Embedding) (c : Catalog) : f.Extends f c :=
  ⟨id, id, fun _ => .inl, fun _ => .inl⟩

theorem Extends.addMap (h : f.Extends g c) : f.Extends (g.addMap c.maps.length) c where
  map hm := (List.getElem?_append_left (List.getElem?_eq_some_iff.mp (h.map hm)).1).trans
    (h.map hm)
  store := h.store
  maps_new k hk := by
    rcases List.mem_append.mp hk with hk | hk
    · exact h.maps_new k hk
    · exact .inr (List.mem_singleton.mp hk).ge
  stores_new := h.stores_new

theorem Extends.addStore (h : f.Extends g c) : f.Extends (g.addStore c.stores.length) c where
  map := h.map
  store hs := (List.getElem?_append_left (List.getElem?_eq_some_iff.mp (h.store hs)).1).trans
    (h.store hs)
  maps_new := h.maps_new
  stores_new k hk := by
    rcases List.mem_append.mp hk with hk | hk
    · exact h.stores_new k hk
    · exact .inr (List.mem_singleton.mp hk).ge

end Embedding

/-! ### Catalogs -/

namespace Catalog

variable {f : Embedding} {storage storage' : Storage} {name name' : String} {part whole : Catalog}
  {m m' : MapId} {s s' : StoreId}

/-- All that `part` holds was opened under one name in one storage, and `whole` holds it too.  The
other names of `whole` lead to something else. -/
structure Mirrors (f : Embedding) (storage : Storage) (name : String) (part whole : Catalog) :
    Prop where
  maps : Picks f.maps whole.maps part.maps
  stores : Picks f.stores whole.stores part.stores
  maps_nodup : f.maps.Nodup
  stores_nodup : f.stores.Nodup
  find? : Option.Rel f.Map (part.find? storage name) (whole.find? storage name)
  apart : ∀ storage' name' map, (storage', name') ≠ (storage, name) →
    whole.find? storage' name' = some map → map.number ∉ f.maps
  shared : ∀ s ∈ part.stores, s.storage = storage

namespace Mirrors

theorem empty (storage : Storage) (name : String) : Mirrors .empty storage name .empty .empty where
  maps := .empty _
  stores := .empty _
  maps_nodup := List.nodup_nil
  stores_nodup := List.nodup_nil
  find? := .none
  apart _ _ _ _ hfind := by cases hfind
  shared _ h := absurd h List.not_mem_nil

/-! ### What corresponds looks alike -/

theorem entries_eq (h : Mirrors f storage name part whole) (hm : f.Map m m') :
    part.entries m = whole.entries m' := by
  rw [entries, entries, h.maps.getElem?_eq hm]

theorem isRemoved_eq (h : Mirrors f storage name part whole) (hm : f.Map m m') :
    part.isRemoved m = whole.isRemoved m' := by
  rw [isRemoved, isRemoved, h.maps.getElem?_eq hm]

theorem isStoreClosed_eq (h : Mirrors f storage name part whole) (hs : f.Store s s') :
    part.isStoreClosed s = whole.isStoreClosed s' := by
  rw [isStoreClosed, isStoreClosed, h.stores.getElem?_eq hs]

theorem isClosed_eq (h : Mirrors f storage name part whole) {handle handle' : MapHandle}
    (hm : f.Map handle.map handle'.map) (hs : f.Store handle.store handle'.store) :
    part.isClosed handle = whole.isClosed handle' := by
  rw [isClosed, isClosed, h.isStoreClosed_eq hs, h.isRemoved_eq hm]

/-- A store that corresponds to one of the other catalog is over the storage, and so is the other
one. -/
theorem storageOf?_eq (h : Mirrors f storage name part whole) (hs : f.Store s s') :
    part.storageOf? s = some storage ∧ whole.storageOf? s' = some storage := by
  have hlt : s.number < part.stores.length :=
    h.stores.length_eq ▸ (List.getElem?_eq_some_iff.mp hs).1
  have hpart := List.getElem?_eq_getElem hlt
  have hopened : part.storageOf? s = some storage := by
    rw [storageOf?, hpart, Option.map_some, h.shared _ (List.mem_of_getElem? hpart)]
  refine ⟨hopened, ?_⟩
  rw [storageOf?, ← h.stores.getElem?_eq hs]
  exact hopened

/-! ### Changes of both -/

theorem setEntries (h : Mirrors f storage name part whole) (hm : f.Map m m') (e : Entries) :
    Mirrors f storage name (part.setEntries m e) (whole.setEntries m' e) :=
  { h with maps := h.maps.modify h.maps_nodup hm _ }

theorem closeStore (h : Mirrors f storage name part whole) (hs : f.Store s s') :
    Mirrors f storage name (part.closeStore s) (whole.closeStore s') := by
  refine { h with stores := h.stores.modify h.stores_nodup hs _, shared := fun state hstate => ?_ }
  obtain ⟨i, hi⟩ := List.mem_iff_getElem?.mp hstate
  rw [Catalog.closeStore, List.getElem?_modify] at hi
  obtain ⟨before, hbefore, rfl⟩ := Option.map_eq_some_iff.mp hi
  have hshared := h.shared before (List.mem_of_getElem? hbefore)
  by_cases hnumber : s.number = i
  · rw [if_pos hnumber]
    exact hshared
  · rw [if_neg hnumber]
    exact hshared

theorem remove (h : Mirrors f storage name part whole) (hm : f.Map m m') :
    Mirrors f storage name (part.remove storage name m) (whole.remove storage name m') where
  maps := h.maps.modify h.maps_nodup hm _
  stores := h.stores
  maps_nodup := h.maps_nodup
  stores_nodup := h.stores_nodup
  find? := by
    rw [find?_remove, find?_remove, if_pos rfl, if_pos rfl]
    exact .none
  apart storage' name' map hne hfind := by
    rw [find?_remove, if_neg hne] at hfind
    exact h.apart storage' name' map hne hfind
  shared := h.shared

theorem addStore (h : Mirrors f storage name part whole) :
    Mirrors (f.addStore whole.stores.length) storage name (part.addStore storage)
      (whole.addStore storage) :=
  { h with
    stores := h.stores.append _
    stores_nodup := h.stores.nodup_append h.stores_nodup
    shared := by
      simp only [Catalog.addStore, List.forall_mem_append, List.forall_mem_singleton]
      exact ⟨h.shared, trivial⟩ }

/-- The store that is added last corresponds to the one that is added last. -/
theorem store_new (h : Mirrors f storage name part whole) :
    (f.addStore whole.stores.length).Store ⟨part.stores.length⟩ ⟨whole.stores.length⟩ := by
  rw [Embedding.Store, h.stores.length_eq]
  exact List.getElem?_concat_length

theorem map_new (h : Mirrors f storage name part whole) :
    (f.addMap whole.maps.length).Map ⟨part.maps.length⟩ ⟨whole.maps.length⟩ := by
  rw [Embedding.Map, h.maps.length_eq]
  exact List.getElem?_concat_length

theorem create (h : Mirrors f storage name part whole) (hwell : whole.WellFormed) :
    Mirrors (f.addMap whole.maps.length) storage name (part.create storage name)
      (whole.create storage name) where
  maps := h.maps.append _
  stores := h.stores
  maps_nodup := h.maps.nodup_append h.maps_nodup
  stores_nodup := h.stores_nodup
  find? := by
    rw [find?_create, find?_create, if_pos rfl, if_pos rfl]
    exact .some h.map_new
  apart storage' name' map hne hfind := by
    rw [find?_create, if_neg hne] at hfind
    have hlt := lt_of_isRemoved (hwell.isRemoved_of_find? hfind)
    rw [Embedding.addMap, List.mem_append, List.mem_singleton, not_or]
    exact ⟨h.apart storage' name' map hne hfind, Nat.ne_of_lt hlt⟩
  shared := h.shared

/-! ### Changes of the larger one -/

theorem setEntries_whole (h : Mirrors f storage name part whole) (hm : m.number ∉ f.maps)
    (e : Entries) : Mirrors f storage name part (whole.setEntries m e) :=
  { h with maps := h.maps.modify_whole hm _ }

theorem closeStore_whole (h : Mirrors f storage name part whole) (hs : s.number ∉ f.stores) :
    Mirrors f storage name part (whole.closeStore s) :=
  { h with stores := h.stores.modify_whole hs _ }

theorem addStore_whole (h : Mirrors f storage name part whole) (storage' : Storage) :
    Mirrors f storage name part (whole.addStore storage') :=
  { h with stores := h.stores.append_whole _ }

theorem remove_whole (h : Mirrors f storage name part whole)
    (hne : (storage', name') ≠ (storage, name)) (hm : m.number ∉ f.maps) :
    Mirrors f storage name part (whole.remove storage' name' m) where
  maps := h.maps.modify_whole hm _
  stores := h.stores
  maps_nodup := h.maps_nodup
  stores_nodup := h.stores_nodup
  find? := by
    rw [find?_remove, if_neg hne.symm]
    exact h.find?
  apart storage'' name'' map hne' hfind := by
    rw [find?_remove] at hfind
    split at hfind
    · cases hfind
    · exact h.apart storage'' name'' map hne' hfind
  shared := h.shared

theorem create_whole (h : Mirrors f storage name part whole)
    (hne : (storage', name') ≠ (storage, name)) :
    Mirrors f storage name part (whole.create storage' name') where
  maps := h.maps.append_whole _
  stores := h.stores
  maps_nodup := h.maps_nodup
  stores_nodup := h.stores_nodup
  find? := by
    rw [find?_create, if_neg hne.symm]
    exact h.find?
  apart storage'' name'' map hne' hfind := by
    rw [find?_create] at hfind
    split at hfind
    · obtain rfl := Option.some.inj hfind
      exact fun hmem => Nat.lt_irrefl _ (h.maps.lt_of_mem hmem)
    · exact h.apart storage'' name'' map hne' hfind
  shared := h.shared

end Mirrors

end Catalog

end GeometryIndex

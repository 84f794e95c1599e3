import GeometryIndex.Proofs.Storage.Names

/-!
# Storage — handles that were given out

Handles are only given out by opening maps, and may be used long after their map was removed and its
name given to another one.  `Catalog.Change` is one change of a catalog, with the handles given out
in it; `Catalog.Changes` is any number of them.

* `Catalog.Linked.changes`: through all of them, the name of a handle leads to its map as long as
  the map is not removed, and the handles on one map have one name in one storage;
* `Catalog.Linked.isRemoved_iff`, `Catalog.Linked.map_eq`: so a map is removed exactly if its name
  no longer leads to it, and open handles of one name in one storage are on one map.
-/

namespace GeometryIndex

namespace Catalog

variable {c c' : Catalog} {given handles : List MapHandle} {handle : MapHandle}
  {map : MapId} {storage : Storage} {name : String}

/-! ### Changes -/

/-- One change of a catalog, and the handles given out in it. -/
inductive Change (c : Catalog) : List MapHandle → Catalog → Prop
  | addStore (storage : Storage)
      (hknown : ∀ number, storage = .ephemeral number → number < c.stores.length + 1) :
      Change c [] (c.addStore storage)
  | closeStore (store : StoreId) : Change c [] (c.closeStore store)
  | setEntries (map : MapId) (entries : Entries) : Change c [] (c.setEntries map entries)
  | find {store : StoreId} {s : StoreState} {name : String} {map : MapId}
      (hs : c.stores[store.number]? = some s) (hfind : c.find? s.storage name = some map) :
      Change c [⟨name, map, store⟩] c
  | create {store : StoreId} {s : StoreState} {name : String}
      (hs : c.stores[store.number]? = some s) (hfind : c.find? s.storage name = none) :
      Change c [⟨name, ⟨c.maps.length⟩, store⟩] (c.create s.storage name)
  | remove {storage : Storage} {name : String} {map : MapId}
      (hfind : c.find? storage name = some map) : Change c [] (c.remove storage name map)

/-- Any number of changes, and the handles given out in them. -/
inductive Changes : Catalog → List MapHandle → Catalog → Prop
  | refl (c : Catalog) : Changes c [] c
  | more {c c₁ c' : Catalog} {given given' : List MapHandle} (h : Change c given c₁)
      (t : Changes c₁ given' c') : Changes c (given ++ given') c'

theorem Change.changes (h : Change c given c') : Changes c given c' := by
  simpa using Changes.more h (.refl c')

/-! ### What stays -/

/-- A store keeps its storage. -/
theorem Change.storageOf?_eq (h : Change c given c') {store : StoreId}
    (hstore : c.storageOf? store = some storage) : c'.storageOf? store = some storage := by
  cases h with
  | addStore => rw [storageOf?, getElem?_addStore (lt_of_storageOf? hstore), ← storageOf?, hstore]
  | closeStore => rw [storageOf?_closeStore, hstore]
  | setEntries | find | create | remove => exact hstore

/-! ### What handles are linked to -/

/-- What links the handles that were given out with a catalog. -/
structure Linked (c : Catalog) (handles : List MapHandle) : Prop where
  wellFormed : c.WellFormed
  /-- A handle is on a map that was created, by way of a store that was opened. -/
  created : ∀ h ∈ handles, h.map.number < c.maps.length
  opened : ∀ h ∈ handles, ∃ storage, c.storageOf? h.store = some storage
  /-- The name leads to the map, as long as the map is not removed. -/
  current : ∀ h ∈ handles, c.isRemoved h.map = false → ∀ storage,
    c.storageOf? h.store = some storage → c.find? storage h.name = some h.map
  /-- A map was created under one name in one storage. -/
  origin : ∀ g ∈ handles, ∀ h ∈ handles, g.map = h.map →
    g.name = h.name ∧ c.storageOf? g.store = c.storageOf? h.store
  /-- Some handle was given out on each map. -/
  covered : ∀ map : MapId, map.number < c.maps.length → ∃ h ∈ handles, h.map = map

namespace Linked

theorem empty : Linked .empty [] where
  wellFormed := .empty
  created _ h := absurd h List.not_mem_nil
  opened _ h := absurd h List.not_mem_nil
  current _ h := absurd h List.not_mem_nil
  origin _ h := absurd h List.not_mem_nil
  covered _ h := absurd h (Nat.not_lt_zero _)

theorem storageOf?_eq (h : Linked c handles) (hchange : Change c given c')
    (hhandle : handle ∈ handles) : c'.storageOf? handle.store = c.storageOf? handle.store := by
  obtain ⟨storage, hstorage⟩ := h.opened handle hhandle
  rw [hstorage]
  exact hchange.storageOf?_eq hstorage

/-- Handles stay linked when no map is created, and names of maps that are not removed stay. -/
theorem keep (h : Linked c handles) (hchange : Change c given c') (hwell : c'.WellFormed)
    (hlength : c'.maps.length = c.maps.length)
    (hlive : ∀ map, c'.isRemoved map = false → c.isRemoved map = false ∧
      ∀ storage name, c.find? storage name = some map → c'.find? storage name = some map) :
    Linked c' handles where
  wellFormed := hwell
  created g hg := hlength ▸ h.created g hg
  opened g hg := (h.opened g hg).imp fun _ => hchange.storageOf?_eq
  current g hg hremoved storage hstorage := by
    obtain ⟨hbefore, hname⟩ := hlive g.map hremoved
    rw [h.storageOf?_eq hchange hg] at hstorage
    exact hname storage g.name (h.current g hg hbefore storage hstorage)
  origin g hg g' hg' hmap := by
    rw [h.storageOf?_eq hchange hg, h.storageOf?_eq hchange hg']
    exact h.origin g hg g' hg' hmap
  covered map hmap := h.covered map (hlength ▸ hmap)

/-- Another handle on a map that a name leads to. -/
theorem find (h : Linked c handles) {store : StoreId} (hstore : c.storageOf? store = some storage)
    (hfind : c.find? storage name = some map) : Linked c (handles ++ [⟨name, map, store⟩]) := by
  have hlive := h.wellFormed.isRemoved_of_find? hfind
  -- All handles on the map have the name that leads to it.
  have hsame : ∀ g ∈ handles, g.map = map →
      g.name = name ∧ c.storageOf? g.store = some storage := by
    rintro g hg rfl
    obtain ⟨storage', hstorage'⟩ := h.opened g hg
    have hcurrent := h.current g hg hlive storage' hstorage'
    obtain ⟨rfl, hname⟩ := h.wellFormed.find?_injective hcurrent hfind
    exact ⟨hname, hstorage'⟩
  refine ⟨h.wellFormed, ?_, ?_, ?_, ?_, fun m hm => ?_⟩
  · rw [List.forall_mem_append, List.forall_mem_singleton]
    exact ⟨h.created, lt_of_isRemoved hlive⟩
  · rw [List.forall_mem_append, List.forall_mem_singleton]
    exact ⟨h.opened, storage, hstore⟩
  · rw [List.forall_mem_append, List.forall_mem_singleton]
    refine ⟨h.current, fun _ storage' hstorage' => ?_⟩
    obtain rfl := Option.some.inj (hstore.symm.trans hstorage')
    exact hfind
  · simp only [List.forall_mem_append, List.forall_mem_singleton]
    refine ⟨fun g hg => ⟨h.origin g hg, fun hmap => ?_⟩, fun g hg hmap => ?_,
      fun _ => ⟨trivial, trivial⟩⟩
    · obtain ⟨hname, hstorage⟩ := hsame g hg hmap
      exact ⟨hname, hstorage.trans hstore.symm⟩
    · obtain ⟨hname, hstorage⟩ := hsame g hg hmap.symm
      exact ⟨hname.symm, hstore.trans hstorage.symm⟩
  · obtain ⟨g, hg, hmap⟩ := h.covered m hm
    exact ⟨g, List.mem_append_left _ hg, hmap⟩

/-- The first handle on a map that is created. -/
theorem create (h : Linked c handles) {store : StoreId} (hstore : c.storageOf? store = some storage)
    (hknown : c.Knows storage) (hfind : c.find? storage name = none) :
    Linked (c.create storage name) (handles ++ [⟨name, ⟨c.maps.length⟩, store⟩]) := by
  have hlength : (c.create storage name).maps.length = c.maps.length + 1 := by
    simp [Catalog.create]
  have hne : ∀ g ∈ handles, g.map ≠ ⟨c.maps.length⟩ := by
    intro g hg hmap
    have hcreated := h.created g hg
    rw [hmap] at hcreated
    exact Nat.lt_irrefl _ hcreated
  refine ⟨h.wellFormed.create hknown name, ?_, ?_, ?_, ?_, fun m hm => ?_⟩
  · rw [List.forall_mem_append, List.forall_mem_singleton, hlength]
    exact ⟨fun g hg => Nat.lt_succ_of_lt (h.created g hg), Nat.lt_succ_self _⟩
  · rw [List.forall_mem_append, List.forall_mem_singleton]
    exact ⟨h.opened, storage, hstore⟩
  · rw [List.forall_mem_append, List.forall_mem_singleton]
    refine ⟨fun g hg hremoved storage' hstorage' => ?_, fun _ storage' hstorage' => ?_⟩
    · rw [isRemoved_create (h.created g hg)] at hremoved
      exact find?_create_of_some hfind (h.current g hg hremoved storage' hstorage')
    · obtain rfl := Option.some.inj (hstore.symm.trans hstorage')
      rw [find?_create, if_pos rfl]
  · simp only [List.forall_mem_append, List.forall_mem_singleton]
    exact ⟨fun g hg => ⟨h.origin g hg, fun hmap => absurd hmap (hne g hg)⟩,
      fun g hg hmap => absurd hmap.symm (hne g hg), fun _ => ⟨trivial, trivial⟩⟩
  · rw [hlength] at hm
    rcases Nat.lt_succ_iff_lt_or_eq.mp hm with hm | hm
    · obtain ⟨g, hg, hmap⟩ := h.covered m hm
      exact ⟨g, List.mem_append_left _ hg, hmap⟩
    · exact ⟨_, List.mem_append_right _ List.mem_cons_self, congrArg MapId.mk hm.symm⟩

/-- **One change** leaves the handles linked, those given out in it included. -/
theorem change (h : Linked c handles) (hchange : Change c given c') :
    Linked c' (handles ++ given) := by
  cases hchange with
  | addStore storage hknown =>
    rw [List.append_nil]
    exact h.keep (.addStore storage hknown) (h.wellFormed.addStore hknown) rfl
      fun _ hlive => ⟨hlive, fun _ _ => id⟩
  | closeStore store =>
    rw [List.append_nil]
    exact h.keep (.closeStore store) (h.wellFormed.closeStore store) rfl
      fun _ hlive => ⟨hlive, fun _ _ => id⟩
  | setEntries map entries =>
    rw [List.append_nil]
    refine h.keep (.setEntries map entries) (h.wellFormed.setEntries map entries)
      (by simp [Catalog.setEntries]) fun m hlive => ⟨?_, fun _ _ => id⟩
    rwa [isRemoved_setEntries] at hlive
  | find hs hfind => exact h.find (storageOf?_of_getElem? hs) hfind
  | create hs hfind =>
    exact h.create (storageOf?_of_getElem? hs)
      (h.wellFormed.stores _ (List.mem_of_getElem? hs)) hfind
  | @remove storage name map hfind =>
    rw [List.append_nil]
    refine h.keep (.remove hfind) (h.wellFormed.remove hfind) (by simp [Catalog.remove])
      fun m hlive => ?_
    have hlt := lt_of_isRemoved (h.wellFormed.isRemoved_of_find? hfind)
    rw [isRemoved_remove hlt, Bool.or_eq_false_iff, decide_eq_false_iff_not] at hlive
    refine ⟨hlive.2, fun storage' name' hfind' => ?_⟩
    rw [find?_remove, if_neg ?_, hfind']
    rintro heq
    obtain ⟨rfl, rfl⟩ := Prod.mk.inj heq
    exact hlive.1 (Option.some.inj (hfind'.symm.trans hfind))

/-- **Any number of changes** leave the handles linked. -/
theorem changes (h : Linked c handles) (hchanges : Changes c given c') :
    Linked c' (handles ++ given) := by
  induction hchanges generalizing handles with
  | refl c =>
    rw [List.append_nil]
    exact h
  | more hchange _ ih =>
    rw [← List.append_assoc]
    exact ih (h.change hchange)

/-! ### What follows from the links -/

/-- A map is removed exactly if its name in its storage no longer leads to it. -/
theorem isRemoved_iff (h : Linked c handles) (hhandle : handle ∈ handles)
    (hstorage : c.storageOf? handle.store = some storage) :
    c.isRemoved handle.map = true ↔ c.find? storage handle.name ≠ some handle.map := by
  constructor
  · intro hremoved hfind
    rw [h.wellFormed.isRemoved_of_find? hfind] at hremoved
    cases hremoved
  · intro hfind
    by_contra hlive
    exact hfind (h.current handle hhandle (Bool.eq_false_iff.mpr hlive) storage hstorage)

/-- Handles of one name in one storage whose maps are not removed are on one map. -/
theorem map_eq (h : Linked c handles) {g : MapHandle} (hg : g ∈ handles)
    (hhandle : handle ∈ handles) (hlive : c.isRemoved g.map = false)
    (hlive' : c.isRemoved handle.map = false) (hname : g.name = handle.name)
    (hstorage : c.storageOf? g.store = c.storageOf? handle.store) : g.map = handle.map := by
  obtain ⟨storage, hopened⟩ := h.opened g hg
  have hfind := h.current g hg hlive storage hopened
  have hfind' := h.current handle hhandle hlive' storage (hstorage ▸ hopened)
  rw [hname] at hfind
  exact Option.some.inj (hfind.symm.trans hfind')

end Linked

end Catalog

/-! ### The changes of an operation -/

/-- The handles that opening a map gives out: one, or none if it fails. -/
def Effect.given (effect : Effect MapHandle) : List MapHandle := effect.answer.toOption.toList

open Catalog (Change Changes)

theorem StoreId.openMap_changes (store : StoreId) (name : String) (c : Catalog) :
    Changes c (store.openMap name c).given (store.openMap name c).catalog := by
  cases hclosed : c.isStoreClosed store with
  | true =>
    rw [openMap_of_closed hclosed]
    exact .refl c
  | false =>
    obtain ⟨s, hs, hopen⟩ := Catalog.isStoreClosed_eq_false hclosed
    cases hfind : c.find? s.storage name with
    | some map =>
      rw [openMap_of_some hs hopen hfind]
      exact (Change.find hs hfind).changes
    | none =>
      rw [openMap_of_none hs hopen hfind]
      exact (Change.create hs hfind).changes

theorem StoreId.removeMap_changes (store : StoreId) (handle : MapHandle) (c : Catalog) :
    Changes c [] (store.removeMap handle c).catalog := by
  rcases Catalog.removeMap_catalog c store handle with hsame | ⟨storage, map, hfind, hremove⟩
  · rw [hsame]
    exact .refl c
  · rw [hremove]
    exact (Change.remove hfind).changes

theorem Catalog.Refills.changes {c c' : Catalog} {map : MapId} (h : c.Refills map c') :
    Changes c [] c' := by
  rcases h with rfl | ⟨e, rfl⟩
  · exact .refl _
  · exact (Change.setEntries map e).changes

end GeometryIndex

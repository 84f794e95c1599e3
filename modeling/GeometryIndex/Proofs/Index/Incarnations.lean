import GeometryIndex.Proofs.Index.Closings
import GeometryIndex.Proofs.Index.Histories

/-!
# Indexes — maps of one name

A name in a storage may lead to one map after another.  Each of them was created under the name and
lives until it is removed; the handles on it share its fate and its content, and those on an earlier
one are closed for good.

* `Workspace.handles_consistent`: so it is after any actions, and dropping an index removes the map
  that it uses and no other.
-/

namespace GeometryIndex

namespace StoreId

variable {c : Catalog} {store : StoreId} {name : String} {handle : MapHandle} {storage : Storage}

/-- What is opened under a name that leads nowhere is a new map. -/
theorem openMap_new (hok : (store.openMap name c).answer = .ok handle)
    (hstorage : c.storageOf? store = some storage) (hfind : c.find? storage name = none) :
    handle = ⟨name, ⟨c.maps.length⟩, store⟩ ∧
      (store.openMap name c).catalog = c.create storage name := by
  cases hclosed : c.isStoreClosed store with
  | true =>
    rw [openMap_of_closed hclosed] at hok
    cases hok
  | false =>
    obtain ⟨s, hs, hopen⟩ := Catalog.isStoreClosed_eq_false hclosed
    obtain rfl := Option.some.inj ((Catalog.storageOf?_of_getElem? hs).symm.trans hstorage)
    rw [openMap_of_none hs hopen hfind] at hok ⊢
    exact ⟨(Except.ok.inj hok).symm, rfl⟩

/-- What is opened is open. -/
theorem isClosed_openMap_self (hwell : c.WellFormed)
    (hok : (store.openMap name c).answer = .ok handle) :
    (store.openMap name c).catalog.isClosed handle = false := by
  cases hclosed : c.isStoreClosed store with
  | true =>
    rw [openMap_of_closed hclosed] at hok
    cases hok
  | false =>
    obtain ⟨s, hs, hopen⟩ := Catalog.isStoreClosed_eq_false hclosed
    cases hfind : c.find? s.storage name with
    | some map =>
      rw [openMap_of_some hs hopen hfind] at hok ⊢
      obtain rfl := Except.ok.inj hok
      exact Bool.or_eq_false_iff.mpr ⟨hclosed, hwell.isRemoved_of_find? hfind⟩
    | none =>
      rw [openMap_of_none hs hopen hfind] at hok ⊢
      obtain rfl := Except.ok.inj hok
      exact Bool.or_eq_false_iff.mpr ⟨hclosed, Catalog.isRemoved_create_new⟩

end StoreId

namespace Workspace

variable {w : Workspace} {ix : Index} {handle : MapHandle}

/-! ### Maps, handles and indexes -/

/-- A map that was created under a name in a storage. -/
def Created (w : Workspace) (map : MapId) (storage : Storage) (name : String) : Prop :=
  (∃ handle ∈ w.handles, handle.map = map) ∧
    ∀ handle ∈ w.handles, handle.map = map →
      handle.name = name ∧ w.catalog.storageOf? handle.store = some storage

/-- How the maps of a workspace, its handles and its indexes fit together. -/
structure Consistent (w : Workspace) : Prop where
  /-- Every map was created under one name in one storage, and is removed exactly if the name leads
  to it no longer. -/
  removed_iff : ∀ map : MapId, map.number < w.catalog.maps.length → ∃ storage name,
    w.Created map storage name ∧
      (w.catalog.isRemoved map = true ↔ w.catalog.find? storage name ≠ some map)
  /-- A handle is open when it is given out. -/
  given_open : ∀ (store : StoreId) (name : String) (handle : MapHandle),
    (store.openMap name w.catalog).answer = .ok handle →
      (store.openMap name w.catalog).catalog.isClosed handle = false
  /-- Handles are on maps and from stores that exist, and are closed exactly if the store is closed
  or the map is removed. -/
  closed_iff : ∀ h ∈ w.handles, ∃ s m, w.catalog.stores[h.store.number]? = some s ∧
    w.catalog.maps[h.map.number]? = some m ∧
    (w.catalog.isClosed h = true ↔ s.closed = true ∨ m.removed = true)
  /-- Nothing closes a handle but the closing of its store and the removal of its map. -/
  closed_by : ∀ h ∈ w.handles, ∀ actions, (w.after actions).catalog.isClosed h = true ↔
    w.catalog.isClosed h = true ∨ ∃ done action later, actions = done ++ action :: later ∧
      (w.after done).Closes action h
  /-- A handle that is closed stays closed, whatever is done. -/
  stays_closed : ∀ h ∈ w.handles, w.catalog.isClosed h = true →
    ∀ actions, (w.after actions).catalog.isClosed h = true
  /-- Open handles of one name in one storage are on one map. -/
  shared : ∀ g ∈ w.handles, ∀ h ∈ w.handles, w.catalog.isClosed g = false →
    w.catalog.isClosed h = false → g.name = h.name →
    w.catalog.storageOf? g.store = w.catalog.storageOf? h.store → g.map = h.map
  /-- What is opened under a name that leads nowhere is an empty map.  No handle so far is on it,
  and those that had the name are closed.  Nothing that is done through them, at any time, changes
  its content, nor does its content show through them. -/
  opened : ∀ (store : StoreId) (name : String) (handle : MapHandle) (storage : Storage),
    (store.openMap name w.catalog).answer = .ok handle →
    w.catalog.storageOf? store = some storage → w.catalog.find? storage name = none →
      (store.openMap name w.catalog).catalog.entries handle.map = .empty ∧
      ∀ old ∈ w.handles, old.map ≠ handle.map ∧
        (old.name = name → w.catalog.storageOf? old.store = some storage →
          w.catalog.isClosed old = true) ∧
        ∀ (c : Catalog) (key : Key) (e : Entries),
          (old.add key c).catalog.entries handle.map = c.entries handle.map ∧
          (old.remove key c).catalog.entries handle.map = c.entries handle.map ∧
          (old.clear c).catalog.entries handle.map = c.entries handle.map ∧
          (old.entries (c.setEntries handle.map e)).answer = (old.entries c).answer
  /-- Closing a store, or an index with its store, closes the handles from this store only. -/
  closing : ∀ h ∈ w.handles,
    (∀ store : StoreId, (store.close w.catalog).catalog.isClosed h =
      (decide (h.store = store) || w.catalog.isClosed h)) ∧
    ∀ ix ∈ w.indexes, ∀ session, h.store ≠ ix.store →
      (ix.close session w.catalog).catalog.isClosed h = w.catalog.isClosed h
  /-- Dropping an index succeeds.  It changes nothing if the map of the index is closed; otherwise
  it removes this map, and does nothing else. -/
  dropping : ∀ ix ∈ w.indexes, ∀ session,
    (ix.drop session w.catalog).answer = .ok () ∧
    (w.catalog.isClosed ix.map = true → (ix.drop session w.catalog).catalog = w.catalog) ∧
    (w.catalog.isClosed ix.map = false →
      w.catalog.RemovesOnly ix.map.map (ix.drop session w.catalog).catalog)

namespace Linked

theorem removed_iff (h : w.Linked) (map : MapId) (hmap : map.number < w.catalog.maps.length) :
    ∃ storage name, w.Created map storage name ∧
      (w.catalog.isRemoved map = true ↔ w.catalog.find? storage name ≠ some map) := by
  obtain ⟨g, hg, rfl⟩ := h.handles.covered map hmap
  obtain ⟨storage, hstorage⟩ := h.handles.opened g hg
  refine ⟨storage, g.name, ⟨⟨g, hg, rfl⟩, fun g' hg' hmap' => ?_⟩,
    h.handles.isRemoved_iff hg hstorage⟩
  obtain ⟨hname, hsame⟩ := h.handles.origin g' hg' g hg hmap'
  exact ⟨hname, hsame.trans hstorage⟩

theorem closed_iff (h : w.Linked) (hhandle : handle ∈ w.handles) :
    ∃ s m, w.catalog.stores[handle.store.number]? = some s ∧
      w.catalog.maps[handle.map.number]? = some m ∧
      (w.catalog.isClosed handle = true ↔ s.closed = true ∨ m.removed = true) := by
  obtain ⟨hstore, hmap⟩ := h.exists_parts hhandle
  have hs := List.getElem?_eq_getElem hstore
  have hm := List.getElem?_eq_getElem hmap
  refine ⟨_, _, hs, hm, ?_⟩
  rw [Catalog.isClosed, Catalog.isStoreClosed, Catalog.isRemoved, hs, hm, Bool.or_eq_true]
  rfl

theorem shared (h : w.Linked) {g : MapHandle} (hg : g ∈ w.handles) (hhandle : handle ∈ w.handles)
    (hopen : w.catalog.isClosed g = false) (hopen' : w.catalog.isClosed handle = false)
    (hname : g.name = handle.name)
    (hstorage : w.catalog.storageOf? g.store = w.catalog.storageOf? handle.store) :
    g.map = handle.map :=
  h.handles.map_eq hg hhandle (Bool.or_eq_false_iff.mp hopen).2 (Bool.or_eq_false_iff.mp hopen').2
    hname hstorage

theorem opened (h : w.Linked) {store : StoreId} {name : String} {storage : Storage}
    (hok : (store.openMap name w.catalog).answer = .ok handle)
    (hstorage : w.catalog.storageOf? store = some storage)
    (hfind : w.catalog.find? storage name = none) :
    (store.openMap name w.catalog).catalog.entries handle.map = .empty ∧
      ∀ old ∈ w.handles, old.map ≠ handle.map ∧
        (old.name = name → w.catalog.storageOf? old.store = some storage →
          w.catalog.isClosed old = true) := by
  obtain ⟨rfl, hcatalog⟩ := StoreId.openMap_new hok hstorage hfind
  rw [hcatalog]
  refine ⟨?_, fun old hold => ⟨fun hmap => ?_, fun hname hsame => ?_⟩⟩
  · rw [Catalog.entries_create, Catalog.entries, List.getElem?_eq_none (Nat.le_refl _)]
    rfl
  · have hcreated := h.handles.created old hold
    rw [hmap] at hcreated
    exact Nat.lt_irrefl _ hcreated
  · subst hname
    rw [Catalog.isClosed, (h.handles.isRemoved_iff hold hsame).mpr (by simp [hfind]), Bool.or_true]

theorem close_store (h : w.Linked) (hhandle : handle ∈ w.handles) (store : StoreId) :
    (store.close w.catalog).catalog.isClosed handle =
      (decide (handle.store = store) || w.catalog.isClosed handle) :=
  Catalog.isClosed_closeStore (h.exists_parts hhandle).1 store

theorem close_index (h : w.Linked) (hhandle : handle ∈ w.handles) (ix : Index)
    (hother : handle.store ≠ ix.store) (session : Session) :
    (ix.close session w.catalog).catalog.isClosed handle = w.catalog.isClosed handle := by
  rcases ix.close_catalog session w.catalog with hsame | hclose
  · rw [hsame]
  · rw [hclose, h.close_store hhandle, decide_eq_false hother, Bool.false_or]

theorem dropping (h : w.Linked) (hix : ix ∈ w.indexes) (session : Session) :
    (ix.drop session w.catalog).answer = .ok () ∧
      (w.catalog.isClosed ix.map = true → (ix.drop session w.catalog).catalog = w.catalog) ∧
      (w.catalog.isClosed ix.map = false →
        w.catalog.RemovesOnly ix.map.map (ix.drop session w.catalog).catalog) := by
  cases hclosed : w.catalog.isClosed ix.map with
  | true =>
    rw [Index.drop_of_closed hclosed]
    exact ⟨rfl, fun _ => rfl, fun hopen => by cases hopen⟩
  | false =>
    obtain ⟨storage, hfind, hdrop⟩ := h.drop_of_open hix hclosed session
    rw [hdrop]
    exact ⟨rfl, fun hopen => (by cases hopen), fun _ => h.handles.wellFormed.removesOnly hfind⟩

end Linked

/-- **Maps, handles and indexes stay consistent**, whatever is done with any number of storages. -/
theorem handles_consistent (actions : List Action) : (start.after actions).Consistent := by
  have h : (start.after actions).Linked := linked_after linked_start actions
  constructor
  case removed_iff => exact h.removed_iff
  case given_open =>
    exact fun store name handle => StoreId.isClosed_openMap_self h.handles.wellFormed
  case closed_iff => exact fun handle => h.closed_iff
  case closed_by => exact fun handle => h.isClosed_after
  case stays_closed =>
    exact fun handle hmem hclosed later => (h.isClosed_after hmem later).mpr (.inl hclosed)
  case shared => exact fun g hg handle => h.shared hg
  case opened =>
    intro store name handle storage hok hstorage hfind
    obtain ⟨hempty, hold⟩ := h.opened hok hstorage hfind
    refine ⟨hempty, fun old hmem => ?_⟩
    obtain ⟨hne, hclosed⟩ := hold old hmem
    exact ⟨hne, hclosed, fun c key e => ⟨(old.refills_add key c).entries_of_ne hne.symm,
      (old.refills_remove key c).entries_of_ne hne.symm,
      (old.refills_clear c).entries_of_ne hne.symm, MapHandle.answer_entries_of_ne c hne.symm e⟩⟩
  case closing =>
    exact fun handle hmem => ⟨h.close_store hmem, fun ix _ session hother =>
      h.close_index hmem ix hother session⟩
  case dropping => exact fun ix => h.dropping

/-- An index and another store over its storage have a map in common.  A key is added, and the index
is dropped. -/
def droppedName : List Action :=
  [.openIndex .sample .sample "T", .openStore "main", .openMap ⟨1⟩ "RTREE_3", .add 1 ⟨1, none⟩,
    .dropIndex 0 .sample]

/-- The name is opened again, by the other store and by a second index. -/
def reopenedName : List Action :=
  droppedName ++ [.openMap ⟨1⟩ "RTREE_3", .openIndex .sample .sample "T"]

/-- The new map is empty, and the handles on the old one are closed for good.  All open handles are
on the new map, which is what the second index removes when it is dropped. -/
theorem handles_consistent_reopened :
    (start.after reopenedName).handles =
        [⟨"RTREE_3", ⟨0⟩, ⟨0⟩⟩, ⟨"RTREE_3", ⟨0⟩, ⟨1⟩⟩, ⟨"RTREE_3", ⟨1⟩, ⟨1⟩⟩,
          ⟨"RTREE_3", ⟨1⟩, ⟨2⟩⟩] ∧
      (StoreId.openMap ⟨1⟩ "RTREE_3" (start.after droppedName).catalog).answer =
        .ok ⟨"RTREE_3", ⟨1⟩, ⟨1⟩⟩ ∧
      (StoreId.openMap ⟨1⟩ "RTREE_3" (start.after droppedName).catalog).catalog.entries ⟨1⟩ =
        .empty ∧
      (start.after reopenedName).catalog.isRemoved ⟨0⟩ = true ∧
      (∀ h ∈ (start.after reopenedName).handles, h.map = ⟨0⟩ →
        ∀ actions, ((start.after reopenedName).after actions).catalog.isClosed h = true) ∧
      (∀ h ∈ (start.after reopenedName).handles,
        (start.after reopenedName).catalog.isClosed h = false → h.map = ⟨1⟩) ∧
      ∃ ix, (start.after reopenedName).indexes[1]? = some ix ∧
        (start.after reopenedName).catalog.RemovesOnly ⟨1⟩
          (ix.drop .sample (start.after reopenedName).catalog).catalog := by
  have hdropped := handles_consistent droppedName
  have hreopened := handles_consistent reopenedName
  have hfirst : ⟨"RTREE_3", ⟨0⟩, ⟨0⟩⟩ ∈ (start.after reopenedName).handles := by decide
  have hnew : ⟨"RTREE_3", ⟨1⟩, ⟨1⟩⟩ ∈ (start.after reopenedName).handles := by decide
  have hclosed : ∀ h ∈ (start.after reopenedName).handles, h.map = ⟨0⟩ →
      (start.after reopenedName).catalog.isClosed h = true := by
    decide
  have hanswer : (StoreId.openMap ⟨1⟩ "RTREE_3" (start.after droppedName).catalog).answer =
      .ok ⟨"RTREE_3", ⟨1⟩, ⟨1⟩⟩ := rfl
  have hfind : (start.after droppedName).catalog.find? (.named "main") "RTREE_3" = none := rfl
  refine ⟨rfl, hanswer, (hdropped.opened _ _ _ _ hanswer rfl hfind).1, ?_,
    fun h hmem hmap => hreopened.stays_closed h hmem (hclosed h hmem hmap),
    fun h hmem hopen => ?_, _, rfl, ?_⟩
  · obtain ⟨storage, name, ⟨-, hcreated⟩, hremoved⟩ := hreopened.removed_iff ⟨0⟩ (by decide)
    obtain ⟨rfl, hstorage⟩ := hcreated _ hfirst rfl
    obtain rfl := Option.some.inj hstorage
    exact hremoved.mpr (by decide)
  · have hsame : h.name = "RTREE_3" ∧
        (start.after reopenedName).catalog.storageOf? h.store = some (.named "main") := by
      revert h
      decide
    exact hreopened.shared h hmem _ hnew hopen rfl hsame.1 hsame.2
  · exact (hreopened.dropping _ (List.mem_of_getElem? (i := 1) rfl) .sample).2.2 rfl

end Workspace

end GeometryIndex

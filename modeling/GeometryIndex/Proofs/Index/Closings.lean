import GeometryIndex.Proofs.Index.Workspaces

/-!
# Indexes — what closes a handle

A handle is open when it is given out.  Four actions can close it: a store is closed, by itself or
with its index, or a map is removed, through a store or with its index.

* `Workspace.Linked.ends_perform`: the one store that an action closes, if any, and the one map that
  it removes (`Workspace.closedStore?`, `Workspace.removedMap?`);
* `Workspace.Linked.isClosed_perform`: it closes the handles from this store and those on this map;
* `Workspace.Linked.isClosed_after`: hence a handle is closed if and only if, since it was given
  out, its store was closed or its map was removed.
-/

namespace GeometryIndex

namespace Workspace

variable {w : Workspace} {handle : MapHandle} {α : Type}

/-- The store that an action closes, if any. -/
def closedStore? (w : Workspace) : Action → Option StoreId
  | .closeStore store => some store
  | .closeIndex index _ => (w.indexes[index]?).bind fun ix => if ix.closed then none else ix.store
  | _ => none

/-- The map of a name in the storage of a store, if the store is open. -/
def namedMap? (w : Workspace) (store : StoreId) (name : String) : Option MapId :=
  if w.catalog.isStoreClosed store then none
  else (w.catalog.storageOf? store).bind fun storage => w.catalog.find? storage name

/-- The map that an action removes, if any. -/
def removedMap? (w : Workspace) : Action → Option MapId
  | .removeMap store handle => (w.handles[handle]?).bind fun g => w.namedMap? store g.name
  | .dropIndex index _ =>
    (w.indexes[index]?).bind fun ix => if w.catalog.isClosed ix.map then none else ix.map.map
  | _ => none

/-- An action closes a handle: it closes its store, or removes its map. -/
def Closes (w : Workspace) (action : Action) (handle : MapHandle) : Prop :=
  w.closedStore? action = some handle.store ∨ w.removedMap? action = some handle.map

theorem catalog_operate {op : Operation α} {next : α → Workspace → Workspace}
    (hnext : ∀ a w, (next a w).catalog = w.catalog) :
    (w.operate op next).catalog = (op w.catalog).catalog := by
  cases hanswer : (op w.catalog).answer with
  | ok a => rw [operate_of_ok hanswer, hnext]
  | error e => rw [operate_of_error hanswer]

theorem catalog_operate_id (op : Operation α) :
    (w.operate op fun _ => id).catalog = (op w.catalog).catalog :=
  catalog_operate fun _ _ => rfl

theorem catalog_perform_openMap (store : StoreId) (name : String) :
    (w.perform (.openMap store name)).catalog = (store.openMap name w.catalog).catalog :=
  catalog_operate fun _ _ => rfl

theorem catalog_perform_openIndex (session : Session) (d : Declaration) (table : String) :
    (w.perform (.openIndex session d table)).catalog =
      (session.openIndex d table w.catalog).catalog :=
  catalog_operate fun _ _ => rfl

/-! ### What spares a handle -/

/-- The store of a handle is as closed as it was, and its map as removed. -/
def Spares (c : Catalog) (handle : MapHandle) (c' : Catalog) : Prop :=
  c'.isStoreClosed handle.store = c.isStoreClosed handle.store ∧
    c'.isRemoved handle.map = c.isRemoved handle.map

theorem spares_refl (c : Catalog) : Spares c handle c := ⟨rfl, rfl⟩

theorem spares_addStore {c : Catalog} (storage : Storage)
    (hstore : handle.store.number < c.stores.length) : Spares c handle (c.addStore storage) := by
  refine ⟨?_, rfl⟩
  rw [Catalog.isStoreClosed, Catalog.getElem?_addStore hstore]
  rfl

/-- Filling a map spares every handle. -/
theorem spares_of_refills {c c' : Catalog} {map : MapId} (h : c.Refills map c') :
    Spares c handle c' := by
  rcases h with rfl | ⟨e, rfl⟩
  · exact spares_refl c'
  · exact ⟨rfl, Catalog.isRemoved_setEntries e _⟩

theorem spares_through {number : Nat} {op : MapHandle → Operation α}
    (h : ∀ g, w.catalog.Refills g.map (op g w.catalog).catalog) :
    Spares w.catalog handle (w.through number op).catalog := by
  unfold through
  split
  · rw [catalog_operate_id]
    exact spares_of_refills (h _)
  · exact spares_refl _

/-- Opening a map spares every handle on a map that is there. -/
theorem spares_openMap {c : Catalog} (store : StoreId) (name : String)
    (hmap : handle.map.number < c.maps.length) :
    Spares c handle (store.openMap name c).catalog := by
  rcases Catalog.openMap_catalog c store name with hsame | ⟨s, -, -, hcreate⟩
  · rw [hsame]
    exact spares_refl c
  · rw [hcreate]
    exact ⟨rfl, Catalog.isRemoved_create hmap⟩

/-- Opening an index spares every handle whose store and map are there. -/
theorem spares_openIndex {c : Catalog} (session : Session) (d : Declaration) (table : String)
    (hstore : handle.store.number < c.stores.length) (hmap : handle.map.number < c.maps.length) :
    Spares c handle (session.openIndex d table c).catalog := by
  rcases session.openIndex_cases d table c with
    ⟨column, storage, map, log, -, -, hopen, -⟩ | ⟨e, -, hcatalog⟩
  · have hbefore : handle.map.number < (c.addStore storage).maps.length := hmap
    have hsecond := spares_openMap ⟨c.stores.length⟩ d.mapName hbefore
    have hfirst := spares_addStore storage hstore
    rw [hopen] at hsecond
    exact ⟨hsecond.1.trans hfirst.1, hsecond.2.trans hfirst.2⟩
  · rw [hcatalog]
    exact spares_refl c

theorem spares_openBeside {c : Catalog} (store : StoreId)
    (hstore : handle.store.number < c.stores.length) :
    Spares c handle ((store.storage >>= Storage.openStore) c).catalog := by
  cases hs : c.stores[store.number]? with
  | none =>
    rw [StoreId.openBeside_of_none hs]
    exact spares_refl c
  | some s =>
    rw [StoreId.openBeside_of_some hs]
    exact spares_addStore s.storage hstore

/-! ### What ends a handle -/

/-- Besides what was closed and removed before, `c` has the named store closed and the named map
removed, as far as they are those of the handle. -/
structure Ends (w : Workspace) (handle : MapHandle) (store : Option StoreId) (map : Option MapId)
    (c : Catalog) : Prop where
  store : c.isStoreClosed handle.store = true ↔
    w.catalog.isStoreClosed handle.store = true ∨ store = some handle.store
  map : c.isRemoved handle.map = true ↔
    w.catalog.isRemoved handle.map = true ∨ map = some handle.map

theorem Ends.of_spares {c : Catalog} (h : Spares w.catalog handle c) :
    w.Ends handle none none c := by
  refine ⟨?_, ?_⟩
  · simp [h.1]
  · simp [h.2]

theorem ends_nothing (w : Workspace) : w.Ends handle none none w.catalog :=
  .of_spares (spares_refl _)

theorem ends_closeStore (hstore : handle.store.number < w.catalog.stores.length)
    (store : StoreId) : w.Ends handle (some store) none (w.catalog.closeStore store) := by
  refine ⟨?_, ?_⟩
  · rw [Catalog.isStoreClosed_closeStore hstore, Bool.or_eq_true, decide_eq_true_iff, or_comm,
      Option.some.injEq]
    exact or_congr_right eq_comm
  · show w.catalog.isRemoved handle.map = true ↔ _
    simp

theorem ends_remove {map : MapId} (hmap : w.catalog.isRemoved map = false) (storage : Storage)
    (name : String) : w.Ends handle none (some map) (w.catalog.remove storage name map) := by
  refine ⟨?_, ?_⟩
  · show w.catalog.isStoreClosed handle.store = true ↔ _
    simp
  · rw [Catalog.isRemoved_remove (Catalog.lt_of_isRemoved hmap), Bool.or_eq_true,
      decide_eq_true_iff, or_comm, Option.some.injEq]
    exact or_congr_right eq_comm

/-- What happened at some point of a list happened at its head or at some point of its tail. -/
theorem exists_split_cons {β : Type} {P : List β → β → Prop} {b : β} {bs : List β} :
    (∃ done a later, b :: bs = done ++ a :: later ∧ P done a) ↔
      P [] b ∨ ∃ done a later, bs = done ++ a :: later ∧ P (b :: done) a := by
  refine ⟨?_, ?_⟩
  · rintro ⟨done, a, later, hsplit, hP⟩
    cases done with
    | nil =>
      obtain ⟨rfl, rfl⟩ := List.cons.inj hsplit
      exact .inl hP
    | cons first done =>
      obtain ⟨rfl, rfl⟩ := List.cons.inj hsplit
      exact .inr ⟨done, a, later, rfl, hP⟩
  · rintro (hP | ⟨done, a, later, rfl, hP⟩)
    · exact ⟨[], b, bs, rfl, hP⟩
    · exact ⟨b :: done, a, later, rfl, hP⟩

namespace Linked

/-- The parts of a catalog that a handle refers to are there. -/
theorem exists_parts (h : w.Linked) (hhandle : handle ∈ w.handles) :
    handle.store.number < w.catalog.stores.length ∧
      handle.map.number < w.catalog.maps.length := by
  obtain ⟨storage, hstorage⟩ := h.handles.opened handle hhandle
  exact ⟨Catalog.lt_of_storageOf? hstorage, h.handles.created handle hhandle⟩

/-- Removing a map through a store ends the handles on it. -/
theorem ends_removeMap (h : w.Linked) (store : StoreId) (g : MapHandle) :
    w.Ends handle none (w.namedMap? store g.name) (store.removeMap g w.catalog).catalog := by
  rw [namedMap?]
  cases hclosed : w.catalog.isStoreClosed store with
  | true =>
    rw [StoreId.removeMap_of_closed hclosed]
    exact ends_nothing w
  | false =>
    obtain ⟨s, hs, hopen⟩ := Catalog.isStoreClosed_eq_false hclosed
    rw [if_neg Bool.false_ne_true, Catalog.storageOf?_of_getElem? hs, Option.bind_some]
    cases hfind : w.catalog.find? s.storage g.name with
    | none =>
      rw [StoreId.removeMap_of_none hs hopen hfind]
      exact ends_nothing w
    | some map =>
      rw [StoreId.removeMap_of_some hs hopen hfind]
      exact ends_remove (h.handles.wellFormed.isRemoved_of_find? hfind) _ _

/-- Closing an index closes its store, unless it was closed before. -/
theorem ends_closeIndex (h : w.Linked) (hhandle : handle ∈ w.handles) (ix : Index)
    (session : Session) :
    w.Ends handle (if ix.closed then none else some ix.store) none
      (ix.close session w.catalog).catalog := by
  cases hclosed : ix.closed with
  | true =>
    rw [Index.close_of_closed hclosed]
    exact ends_nothing w
  | false =>
    rw [Index.close_of_open hclosed]
    exact ends_closeStore (h.exists_parts hhandle).1 ix.store

/-- Dropping an index removes its map, unless that is out of reach. -/
theorem ends_dropIndex (h : w.Linked) {ix : Index} (hix : ix ∈ w.indexes) (session : Session) :
    w.Ends handle none (if w.catalog.isClosed ix.map then none else some ix.map.map)
      (ix.drop session w.catalog).catalog := by
  cases hclosed : w.catalog.isClosed ix.map with
  | true =>
    rw [Index.drop_of_closed hclosed]
    exact ends_nothing w
  | false =>
    obtain ⟨storage, -, hdrop⟩ := h.drop_of_open hix hclosed session
    rw [hdrop]
    exact ends_remove (Bool.or_eq_false_iff.mp hclosed).2 _ _

/-- **What an action ends**: it closes one store at most and removes one map at most. -/
theorem ends_perform (h : w.Linked) (hhandle : handle ∈ w.handles) (action : Action) :
    w.Ends handle (w.closedStore? action) (w.removedMap? action) (w.perform action).catalog := by
  obtain ⟨hstore, hmap⟩ := h.exists_parts hhandle
  cases action with
  | openStore name =>
    rw [perform, catalog_operate_id]
    exact .of_spares (spares_addStore _ hstore)
  | openEphemeral =>
    rw [perform, catalog_operate_id]
    exact .of_spares (spares_addStore _ hstore)
  | openBeside store =>
    rw [perform, catalog_operate_id]
    exact .of_spares (spares_openBeside store hstore)
  | closeStore store =>
    rw [perform, catalog_operate_id]
    exact ends_closeStore hstore store
  | openMap store name =>
    rw [catalog_perform_openMap]
    exact .of_spares (spares_openMap store name hmap)
  | removeMap store number =>
    rw [perform, through, removedMap?]
    cases w.handles[number]? with
    | none => exact ends_nothing w
    | some g =>
      simp only [catalog_operate_id, Option.bind_some]
      exact h.ends_removeMap store g
  | add number key => exact .of_spares (spares_through fun g => g.refills_add key _)
  | remove number key => exact .of_spares (spares_through fun g => g.refills_remove key _)
  | clear number => exact .of_spares (spares_through fun g => g.refills_clear _)
  | openIndex session d table =>
    rw [catalog_perform_openIndex]
    exact .of_spares (spares_openIndex session d table hstore hmap)
  | closeIndex index session =>
    rw [perform, onIndex, closedStore?]
    cases w.indexes[index]? with
    | none => exact ends_nothing w
    | some ix =>
      have hcatalog : (w.operate (ix.close session) fun ix w =>
          { w with indexes := w.indexes.set index ix }).catalog =
        (ix.close session w.catalog).catalog := catalog_operate fun _ _ => rfl
      simp only [hcatalog, Option.bind_some]
      exact h.ends_closeIndex hhandle ix session
  | dropIndex index session =>
    rw [perform, onIndex, removedMap?]
    cases hix : w.indexes[index]? with
    | none => exact ends_nothing w
    | some ix =>
      simp only [catalog_operate_id, Option.bind_some]
      exact h.ends_dropIndex (List.mem_of_getElem? hix) session

/-- **What an action closes.** -/
theorem isClosed_perform (h : w.Linked) (hhandle : handle ∈ w.handles) (action : Action) :
    (w.perform action).catalog.isClosed handle = true ↔
      w.catalog.isClosed handle = true ∨ w.Closes action handle := by
  have hends := h.ends_perform hhandle action
  rw [Catalog.isClosed, Bool.or_eq_true, hends.store, hends.map, or_or_or_comm, Catalog.isClosed,
    Bool.or_eq_true, Closes]

/-- **What closes a handle** that was given out: an action, at some time since. -/
theorem isClosed_after (h : w.Linked) (hhandle : handle ∈ w.handles) (actions : List Action) :
    (w.after actions).catalog.isClosed handle = true ↔
      w.catalog.isClosed handle = true ∨
        ∃ done action later, actions = done ++ action :: later ∧
          (w.after done).Closes action handle := by
  induction actions generalizing w with
  | nil => simp [after]
  | cons action actions ih =>
    obtain ⟨given, -, hhandles, -⟩ := leads_perform h.handles.wellFormed action
    have hstill : handle ∈ (w.perform action).handles :=
      hhandles ▸ List.mem_append_left _ hhandle
    show ((w.perform action).after actions).catalog.isClosed handle = true ↔ _
    rw [ih (linked_perform h action) hstill, h.isClosed_perform hhandle, or_assoc,
      exists_split_cons]
    rfl

end Linked

end Workspace

end GeometryIndex

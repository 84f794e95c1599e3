import GeometryIndex.Proofs.Index.Effects
import GeometryIndex.Proofs.Storage.Handles

/-!
# Indexes — workspaces

A workspace is what a program with any number of storages has in hands: the catalog, the handles on
maps that it was given and the indexes that it opened.  Every action that is possible with these can
be taken at any time, also through handles that are closed and names that were given to another map.

* `Workspace.leads_perform`: what an action can do to the catalog, the handles and the indexes;
* `Workspace.linked_perform`, `Workspace.linked_after`: so after any actions the handles are linked
  with the catalog, and every index holds a handle that its own store gave out.
-/

namespace GeometryIndex

open Catalog (Change Changes)

structure Workspace where
  catalog : Catalog
  handles : List MapHandle
  indexes : List Index

/-- What can be done in a workspace.  Handles and indexes are named by their place in its lists. -/
inductive Action
  /-- Opens a store over the storage of the given name. -/
  | openStore (name : String)
  /-- Opens a store over a new private storage. -/
  | openEphemeral
  /-- Opens another store over the storage of a store. -/
  | openBeside (store : StoreId)
  | closeStore (store : StoreId)
  | openMap (store : StoreId) (name : String)
  | removeMap (store : StoreId) (handle : Nat)
  | add (handle : Nat) (key : Key)
  | remove (handle : Nat) (key : Key)
  | clear (handle : Nat)
  | openIndex (session : Session) (declaration : Declaration) (table : String)
  | closeIndex (index : Nat) (session : Session)
  | dropIndex (index : Nat) (session : Session)

/-- The store and the handle of an index, which never change. -/
def Index.link (ix : Index) : StoreId × MapHandle := (ix.store, ix.map)

namespace Workspace

variable {w : Workspace} {α : Type}

/-- A program that has just begun. -/
def start : Workspace := ⟨.empty, [], []⟩

/-- An operation, and what is done with its answer if it succeeds. -/
def operate (w : Workspace) (op : Operation α) (next : α → Workspace → Workspace) : Workspace :=
  let effect := op w.catalog
  match effect.answer with
  | .ok a => next a { w with catalog := effect.catalog }
  | .error _ => { w with catalog := effect.catalog }

/-- An operation on a handle, if there is one at the given place. -/
def through (w : Workspace) (handle : Nat) (op : MapHandle → Operation α) : Workspace :=
  match w.handles[handle]? with
  | some handle => w.operate (op handle) fun _ => id
  | none => w

/-- An operation on an index, if there is one at the given place, and what is done with its answer
if it succeeds. -/
def onIndex (w : Workspace) (index : Nat) (op : Index → Operation α)
    (next : α → Workspace → Workspace) : Workspace :=
  match w.indexes[index]? with
  | some ix => w.operate (op ix) next
  | none => w

/-- The workspace after an action. -/
def perform (w : Workspace) : Action → Workspace
  | .openStore name => w.operate (Storage.named name).openStore fun _ => id
  | .openEphemeral => w.operate Storage.openEphemeral fun _ => id
  | .openBeside store => w.operate (store.storage >>= Storage.openStore) fun _ => id
  | .closeStore store => w.operate store.close fun _ => id
  | .openMap store name =>
    w.operate (store.openMap name) fun handle w => { w with handles := w.handles ++ [handle] }
  | .removeMap store handle => w.through handle store.removeMap
  | .add handle key => w.through handle fun handle => handle.add key
  | .remove handle key => w.through handle fun handle => handle.remove key
  | .clear handle => w.through handle MapHandle.clear
  | .openIndex session declaration table =>
    w.operate (session.openIndex declaration table) fun ix w =>
      { w with handles := w.handles ++ [ix.map], indexes := w.indexes ++ [ix] }
  | .closeIndex index session =>
    w.onIndex index (fun ix => ix.close session) fun ix w =>
      { w with indexes := w.indexes.set index ix }
  | .dropIndex index session => w.onIndex index (fun ix => ix.drop session) fun _ => id

/-- The workspace after several actions, taken one after the other. -/
def after (w : Workspace) (actions : List Action) : Workspace := actions.foldl perform w

theorem operate_of_ok {op : Operation α} {a : α} (h : (op w.catalog).answer = .ok a)
    (next : α → Workspace → Workspace) :
    w.operate op next = next a { w with catalog := (op w.catalog).catalog } := by
  simp [operate, h]

theorem operate_of_error {op : Operation α} {e : Error} (h : (op w.catalog).answer = .error e)
    (next : α → Workspace → Workspace) :
    w.operate op next = { w with catalog := (op w.catalog).catalog } := by
  simp [operate, h]

/-! ### What an action does -/

/-- What an action can do: the catalog goes through changes, the handles given out in them are
kept, and an index is linked as one before was, or is new and has a handle from its own store. -/
def Leads (w w' : Workspace) : Prop :=
  ∃ given, Changes w.catalog given w'.catalog ∧ w'.handles = w.handles ++ given ∧
    ∀ ix ∈ w'.indexes, (∃ before ∈ w.indexes, before.link = ix.link) ∨
      ix.map ∈ given ∧ ix.map.store = ix.store

/-- Only the catalog goes through changes. -/
theorem leads_of_changes {c : Catalog} (h : Changes w.catalog [] c) :
    w.Leads { w with catalog := c } :=
  ⟨[], h, (List.append_nil _).symm, fun ix hix => .inl ⟨ix, hix, rfl⟩⟩

theorem leads_refl (w : Workspace) : w.Leads w := leads_of_changes (.refl _)

theorem leads_operate {op : Operation α} (h : Changes w.catalog [] (op w.catalog).catalog) :
    w.Leads (w.operate op fun _ => id) := by
  cases hanswer : (op w.catalog).answer with
  | ok a =>
    rw [operate_of_ok hanswer]
    exact leads_of_changes h
  | error e =>
    rw [operate_of_error hanswer]
    exact leads_of_changes h

theorem leads_through {handle : Nat} {op : MapHandle → Operation α}
    (h : ∀ g, Changes w.catalog [] (op g w.catalog).catalog) : w.Leads (w.through handle op) := by
  unfold through
  split
  · exact leads_operate (h _)
  · exact leads_refl w

end Workspace

/-! ### The changes of an operation on an index -/

/-- Another store over the storage of a store. -/
theorem StoreId.openBeside_of_some {c : Catalog} {store : StoreId} {s : StoreState}
    (hs : c.stores[store.number]? = some s) :
    (store.storage >>= Storage.openStore) c =
      ⟨.ok ⟨c.stores.length⟩, c.addStore s.storage, []⟩ := by
  have hfound : store.storage c = ⟨.ok s.storage, c, []⟩ := by
    simp [storage, hs, Operation.succeed]
  rw [Operation.bind_of_ok hfound]
  rfl

theorem StoreId.openBeside_of_none {c : Catalog} {store : StoreId}
    (hs : c.stores[store.number]? = none) :
    (store.storage >>= Storage.openStore) c = ⟨.error (.closed .store), c, []⟩ := by
  have hfails : store.storage c = ⟨.error (.closed .store), c, []⟩ := by
    simp [storage, hs, Operation.fail]
  exact Operation.bind_of_error hfails _

theorem Session.openIndex_changes (session : Session) (d : Declaration) (table : String)
    (c : Catalog) :
    (∃ ix, (session.openIndex d table c).answer = .ok ix ∧ ix.map.store = ix.store ∧
        Changes c [ix.map] (session.openIndex d table c).catalog) ∨
      ∃ e, (session.openIndex d table c).answer = .error e ∧
        (session.openIndex d table c).catalog = c := by
  rcases session.openIndex_cases d table c with
    ⟨column, storage, map, log, hstorage, -, hopen, hanswer⟩ | hfails
  · have hknown : ∀ number, storage = .ephemeral number → number < c.stores.length + 1 := by
      rintro number rfl
      cases hpersistent : d.persistent with
      | true =>
        rw [hpersistent] at hstorage
        obtain ⟨name, -, hname⟩ := Option.map_eq_some_iff.mp hstorage
        cases hname
      | false =>
        rw [hpersistent] at hstorage
        obtain rfl := Storage.ephemeral.inj (Option.some.inj hstorage)
        exact Nat.lt_succ_self _
    have hmap := StoreId.openMap_changes ⟨c.stores.length⟩ d.mapName (c.addStore storage)
    rw [hopen] at hmap
    exact .inl ⟨_, hanswer, rfl, .more (.addStore storage hknown) hmap⟩
  · exact .inr hfails

namespace Index

theorem close_changes (ix : Index) (session : Session) (c : Catalog) :
    Changes c [] (ix.close session c).catalog := by
  rcases ix.close_catalog session c with hsame | hclose
  · rw [hsame]
    exact .refl c
  · rw [hclose]
    exact (Change.closeStore ix.store).changes

theorem close_of_closed {ix : Index} (h : ix.closed = true) (session : Session) (c : Catalog) :
    ix.close session c = ⟨.ok ix, c, []⟩ := by
  rw [close, if_pos h]
  rfl

theorem close_of_open {ix : Index} (h : ix.closed = false) (session : Session) (c : Catalog) :
    ix.close session c =
      ⟨.ok { ix with closed := true }, c.closeStore ix.store, [.close ix.name session.id]⟩ := by
  rw [close, if_neg (by simp [h])]
  rfl

theorem close_answer (ix : Index) (session : Session) (c : Catalog) :
    ∃ closed, (ix.close session c).answer = .ok closed ∧ ix.link = closed.link := by
  cases hclosed : ix.closed with
  | true =>
    rw [close_of_closed hclosed]
    exact ⟨ix, rfl, rfl⟩
  | false =>
    rw [close_of_open hclosed]
    exact ⟨_, rfl, rfl⟩

theorem drop_of_closed {ix : Index} {c : Catalog} (hclosed : c.isClosed ix.map = true)
    (session : Session) : ix.drop session c = ⟨.ok (), c, []⟩ := by
  rw [drop, Operation.bind_of_ok (Operation.look_eq c), if_pos hclosed]
  rfl

theorem drop_changes (ix : Index) (session : Session) (c : Catalog) :
    Changes c [] (ix.drop session c).catalog := by
  rcases ix.drop_catalog session c with hsame | hdrop
  · rw [hsame]
    exact .refl c
  · rw [hdrop]
    exact ix.store.removeMap_changes ix.map c

end Index

namespace Workspace

variable {w w' : Workspace}

/-- **What an action does**, in a workspace whose stores are known. -/
theorem leads_perform (hwell : w.catalog.WellFormed) (action : Action) :
    w.Leads (w.perform action) := by
  cases action with
  | openStore name =>
    exact leads_operate (Change.addStore (.named name) fun _ hnumber => nomatch hnumber).changes
  | openEphemeral =>
    refine leads_operate (Change.addStore (.ephemeral w.catalog.stores.length) ?_).changes
    intro number hnumber
    obtain rfl := Storage.ephemeral.inj hnumber
    exact Nat.lt_succ_self _
  | openBeside store =>
    refine leads_operate ?_
    cases hs : w.catalog.stores[store.number]? with
    | none =>
      rw [StoreId.openBeside_of_none hs]
      exact .refl _
    | some s =>
      rw [StoreId.openBeside_of_some hs]
      refine (Change.addStore s.storage fun number hnumber => ?_).changes
      exact Nat.lt_succ_of_lt (hwell.stores s (List.mem_of_getElem? hs) number hnumber)
  | closeStore store => exact leads_operate (Change.closeStore store).changes
  | openMap store name =>
    have hchanges := store.openMap_changes name w.catalog
    rw [Effect.given] at hchanges
    rw [perform]
    cases hanswer : (store.openMap name w.catalog).answer with
    | ok handle =>
      rw [operate_of_ok hanswer]
      rw [hanswer] at hchanges
      exact ⟨[handle], hchanges, rfl, fun ix hix => .inl ⟨ix, hix, rfl⟩⟩
    | error e =>
      rw [operate_of_error hanswer]
      rw [hanswer] at hchanges
      exact leads_of_changes hchanges
  | removeMap store handle => exact leads_through fun g => store.removeMap_changes g _
  | add handle key => exact leads_through fun g => (g.refills_add key _).changes
  | remove handle key => exact leads_through fun g => (g.refills_remove key _).changes
  | clear handle => exact leads_through fun g => (g.refills_clear _).changes
  | openIndex session declaration table =>
    rw [perform]
    rcases session.openIndex_changes declaration table w.catalog with
      ⟨ix, hanswer, hstore, hchanges⟩ | ⟨e, hanswer, hcatalog⟩
    · rw [operate_of_ok hanswer]
      refine ⟨[ix.map], hchanges, rfl, ?_⟩
      simp only [List.forall_mem_append, List.forall_mem_singleton]
      exact ⟨fun other hother => .inl ⟨other, hother, rfl⟩, .inr ⟨List.mem_cons_self, hstore⟩⟩
    · rw [operate_of_error hanswer, hcatalog]
      exact leads_refl w
  | closeIndex index session =>
    rw [perform, onIndex]
    split
    · next ix hix =>
      obtain ⟨closed, hanswer, hlink⟩ := ix.close_answer session w.catalog
      rw [operate_of_ok hanswer]
      refine ⟨[], ix.close_changes session _, (List.append_nil _).symm, fun other hother => ?_⟩
      rcases List.mem_or_eq_of_mem_set hother with hbefore | rfl
      · exact .inl ⟨other, hbefore, rfl⟩
      · exact .inl ⟨ix, List.mem_of_getElem? hix, hlink⟩
    · exact leads_refl w
  | dropIndex index session =>
    rw [perform, onIndex]
    split
    · next ix _ => exact leads_operate (ix.drop_changes session _)
    · exact leads_refl w

/-- What links a workspace: its handles with the catalog, and its indexes with their handles. -/
structure Linked (w : Workspace) : Prop where
  handles : w.catalog.Linked w.handles
  indexes : ∀ ix ∈ w.indexes, ix.map ∈ w.handles ∧ ix.map.store = ix.store

theorem Linked.leads (h : w.Linked) (hleads : w.Leads w') : w'.Linked := by
  obtain ⟨given, hchanges, hhandles, hindexes⟩ := hleads
  refine ⟨hhandles ▸ h.handles.changes hchanges, fun ix hix => ?_⟩
  rw [hhandles]
  rcases hindexes ix hix with ⟨before, hbefore, hlink⟩ | ⟨hgiven, hstore⟩
  · obtain ⟨hstore, hmap⟩ := Prod.mk.inj hlink
    have hlinked := h.indexes before hbefore
    rw [hmap, hstore] at hlinked
    exact ⟨List.mem_append_left _ hlinked.1, hlinked.2⟩
  · exact ⟨List.mem_append_right _ hgiven, hstore⟩

/-- An index whose map is open removes this map when it is dropped. -/
theorem Linked.drop_of_open (h : w.Linked) {ix : Index} (hix : ix ∈ w.indexes)
    (hopen : w.catalog.isClosed ix.map = false) (session : Session) :
    ∃ storage, w.catalog.find? storage ix.map.name = some ix.map.map ∧
      ix.drop session w.catalog =
        ⟨.ok (), w.catalog.remove storage ix.map.name ix.map.map,
          [.drop ix.name session.id ix.map.name, .removedMap ix.map.name]⟩ := by
  obtain ⟨hmem, hstore⟩ := h.indexes ix hix
  obtain ⟨hstoreOpen, hlive⟩ := Bool.or_eq_false_iff.mp hopen
  obtain ⟨s, hs, hsopen⟩ := Catalog.isStoreClosed_eq_false hstoreOpen
  have hfind := h.handles.current ix.map hmem hlive s.storage (Catalog.storageOf?_of_getElem? hs)
  rw [hstore] at hs
  refine ⟨s.storage, hfind, ?_⟩
  rw [Index.drop, Operation.bind_of_ok (Operation.look_eq _), if_neg (by simp [hopen]),
    Operation.bind_of_ok (Operation.write_eq _), StoreId.removeMap_of_some hs hsopen hfind]
  rfl

/-- **One action** leaves a workspace linked. -/
theorem linked_perform (h : w.Linked) (action : Action) : (w.perform action).Linked :=
  h.leads (leads_perform h.handles.wellFormed action)

/-- **Any actions** leave a workspace linked. -/
theorem linked_after (h : w.Linked) (actions : List Action) : (w.after actions).Linked := by
  induction actions generalizing w with
  | nil => exact h
  | cons action actions ih => exact ih (linked_perform h action)

theorem linked_start : start.Linked := ⟨.empty, fun _ h => absurd h List.not_mem_nil⟩

end Workspace

end GeometryIndex

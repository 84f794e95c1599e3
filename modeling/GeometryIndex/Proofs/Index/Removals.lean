import GeometryIndex.Proofs.Index.Workspaces

/-!
# Indexes — removing a map through a store

A store that removes the map of a handle goes by the name of the handle, in its own storage.  The
name may lead to another map than the handle is on: the name was given to a new map after the map of
the handle was removed, or the handle is from another storage, which has its own map of this name.

* `Catalog.SparesOthers`: no map but one is touched;
* `Workspace.removal_spares_others_iff`: so it is exactly if the name leads to no other map;
* `Workspace.stale_handle_removes_successor`: through a handle whose map was removed, the map that
  took over its name is removed.
-/

namespace GeometryIndex

namespace Catalog

variable {c c' : Catalog} {map other : MapId}

/-- All maps but one are as before: removed or not, with their contents and under their names, and
the handles on them open or closed. -/
structure SparesOthers (c : Catalog) (map : MapId) (c' : Catalog) : Prop where
  isRemoved : ∀ m, m ≠ map → c'.isRemoved m = c.isRemoved m
  isClosed : ∀ handle : MapHandle, handle.map ≠ map → c'.isClosed handle = c.isClosed handle
  entries : ∀ m, m ≠ map → c'.entries m = c.entries m
  find? : ∀ m, m ≠ map → ∀ storage name,
    c'.find? storage name = some m ↔ c.find? storage name = some m

theorem SparesOthers.refl (c : Catalog) (map : MapId) : c.SparesOthers map c :=
  ⟨fun _ _ => rfl, fun _ _ => rfl, fun _ _ => rfl, fun _ _ _ _ => Iff.rfl⟩

/-- What removes a map and does nothing else spares the other ones. -/
theorem RemovesOnly.sparesOthers (h : c.RemovesOnly map c') : c.SparesOthers map c' where
  isRemoved m hm := by rw [h.isRemoved, decide_eq_false hm, Bool.false_or]
  isClosed handle hm := by rw [h.isClosed, decide_eq_false hm, Bool.false_or]
  entries m _ := h.entries m
  find? m hm storage name := by
    rw [h.find?]
    by_cases hname : c.find? storage name = some map
    · rw [if_pos hname, hname]
      exact iff_of_false nofun fun heq => hm (Option.some.inj heq).symm
    · rw [if_neg hname]

/-- A map that was not removed, and now is, is not spared. -/
theorem RemovesOnly.eq_of_sparesOthers (h : c.RemovesOnly other c')
    (hlive : c.isRemoved other = false) (hspares : c.SparesOthers map c') : other = map := by
  by_contra hne
  have hsame := hspares.isRemoved other hne
  rw [h.isRemoved, decide_eq_true rfl, Bool.true_or, hlive] at hsame
  cases hsame

end Catalog

namespace Workspace

variable {store : StoreId} {handle : MapHandle}

/-- The handle is closed after a store over its storage removed what has its name. -/
theorem Linked.isClosed_after_removal {w : Workspace} (h : w.Linked) (hhandle : handle ∈ w.handles)
    {s : StoreState} (hs : w.catalog.stores[store.number]? = some s) (hopen : s.closed = false)
    (hstorage : w.catalog.storageOf? handle.store = some s.storage) :
    (store.removeMap handle w.catalog).catalog.isClosed handle = true := by
  cases hfind : w.catalog.find? s.storage handle.name with
  | none =>
    -- The name leads nowhere, so the map of the handle was removed before.
    rw [StoreId.removeMap_of_none hs hopen hfind, Catalog.isClosed,
      (h.handles.isRemoved_iff hhandle hstorage).mpr (by simp [hfind]), Bool.or_true]
  | some map =>
    have hcreated := Catalog.lt_of_isRemoved (h.handles.wellFormed.isRemoved_of_find? hfind)
    rw [StoreId.removeMap_of_some hs hopen hfind, Catalog.isClosed_remove hcreated]
    by_cases hmap : handle.map = map
    · rw [decide_eq_true hmap, Bool.true_or]
    · have hremoved : w.catalog.isRemoved handle.map = true := by
        rw [h.handles.isRemoved_iff hhandle hstorage, hfind]
        exact fun heq => hmap (Option.some.inj heq).symm
      rw [Catalog.isClosed, hremoved, Bool.or_true, Bool.or_true]

/-- **What removing a map through a store removes.**  After any actions on any number of storages,
take an open store and a handle, which may be from another store or storage, and whose map may be
removed and its name given to another one.  Removing the map of the handle through the store
succeeds.  If the name of the handle leads nowhere in the storage of the store, nothing happens;
otherwise the map that it leads to is removed, and nothing else happens.  Hence every map but that
of the handle is spared if and only if the name leads to no other one.  If the handle is from the
storage of the store, it is closed afterwards in any case. -/
theorem removal_spares_others_iff (actions : List Action)
    (hhandle : handle ∈ (start.after actions).handles)
    (hopen : (start.after actions).catalog.isStoreClosed store = false) :
    let c := (start.after actions).catalog
    ∃ storage c' log, c.storageOf? store = some storage ∧
      store.removeMap handle c = ⟨.ok (), c', log⟩ ∧
      (c.find? storage handle.name = none → c' = c) ∧
      (∀ map, c.find? storage handle.name = some map → c.RemovesOnly map c') ∧
      (c.SparesOthers handle.map c' ↔
        ∀ map, c.find? storage handle.name = some map → map = handle.map) ∧
      (c.storageOf? handle.store = some storage → c'.isClosed handle = true) := by
  intro c
  have h : (start.after actions).Linked := linked_after linked_start actions
  obtain ⟨s, hs, hsopen⟩ := Catalog.isStoreClosed_eq_false hopen
  have hclosed := h.isClosed_after_removal hhandle hs hsopen
  cases hfind : c.find? s.storage handle.name with
  | none =>
    rw [StoreId.removeMap_of_none hs hsopen hfind] at hclosed
    refine ⟨s.storage, c, [], Catalog.storageOf?_of_getElem? hs,
      StoreId.removeMap_of_none hs hsopen hfind, fun _ => rfl, ?_, ?_, hclosed⟩
    · intro map hmap
      rw [hfind] at hmap
      cases hmap
    · refine iff_of_true (.refl c handle.map) fun map hmap => ?_
      rw [hfind] at hmap
      cases hmap
  | some map =>
    have hremoves := h.handles.wellFormed.removesOnly hfind
    rw [StoreId.removeMap_of_some hs hsopen hfind] at hclosed
    refine ⟨s.storage, c.remove s.storage handle.name map, [.removedMap handle.name],
      Catalog.storageOf?_of_getElem? hs, StoreId.removeMap_of_some hs hsopen hfind, ?_, ?_, ?_,
      hclosed⟩
    · intro hnone
      rw [hfind] at hnone
      cases hnone
    · intro map' hmap'
      obtain rfl := Option.some.inj (hfind.symm.trans hmap')
      exact hremoves
    · constructor
      · intro hspares map' hmap'
        obtain rfl := Option.some.inj (hfind.symm.trans hmap')
        exact hremoves.eq_of_sparesOthers (h.handles.wellFormed.isRemoved_of_find? hfind) hspares
      · intro hsame
        exact hsame map hfind ▸ hremoves.sparesOthers

/-- Two storages with a map of one name each; in the first one the name was given to a new map. -/
def reusedName : List Action :=
  [.openStore "main", .openStore "other", .openMap ⟨0⟩ "A", .openMap ⟨1⟩ "A", .removeMap ⟨0⟩ 0,
    .openMap ⟨0⟩ "A", .add 2 ⟨1, none⟩]

theorem removal_spares_others_current :
    ⟨"A", ⟨2⟩, ⟨0⟩⟩ ∈ (start.after reusedName).handles ∧
      (start.after reusedName).catalog.isStoreClosed ⟨0⟩ = false ∧
      ∃ c' log, StoreId.removeMap ⟨0⟩ ⟨"A", ⟨2⟩, ⟨0⟩⟩ (start.after reusedName).catalog =
          ⟨.ok (), c', log⟩ ∧
        (start.after reusedName).catalog.SparesOthers ⟨2⟩ c' ∧
        c'.isClosed ⟨"A", ⟨2⟩, ⟨0⟩⟩ = true := by
  have hhandle : ⟨"A", ⟨2⟩, ⟨0⟩⟩ ∈ (start.after reusedName).handles := by decide
  have hopen : (start.after reusedName).catalog.isStoreClosed ⟨0⟩ = false := rfl
  obtain ⟨storage, c', log, hstorage, hremove, -, -, hspares, hclosed⟩ :=
    removal_spares_others_iff reusedName hhandle hopen
  obtain rfl : .named "main" = storage := Option.some.inj hstorage
  refine ⟨hhandle, hopen, c', log, hremove, hspares.mpr fun map hmap => ?_, hclosed rfl⟩
  exact (Option.some.inj hmap).symm

/-- **A stale handle removes the map that took over its name.**  The first handle, whose map was
removed, and the second one, which is from another storage, both remove the map of the third one,
which holds a key. -/
theorem stale_handle_removes_successor :
    (start.after reusedName).handles =
        [⟨"A", ⟨0⟩, ⟨0⟩⟩, ⟨"A", ⟨1⟩, ⟨1⟩⟩, ⟨"A", ⟨2⟩, ⟨0⟩⟩] ∧
      (start.after reusedName).catalog.isStoreClosed ⟨0⟩ = false ∧
      (start.after reusedName).catalog.isClosed ⟨"A", ⟨2⟩, ⟨0⟩⟩ = false ∧
      (start.after reusedName).catalog.find? (.named "main") "A" = some ⟨2⟩ ∧
      ∀ handle : MapHandle, handle = ⟨"A", ⟨0⟩, ⟨0⟩⟩ ∨ handle = ⟨"A", ⟨1⟩, ⟨1⟩⟩ →
        ∃ c' log, StoreId.removeMap ⟨0⟩ handle (start.after reusedName).catalog =
            ⟨.ok (), c', log⟩ ∧
          c'.isClosed ⟨"A", ⟨2⟩, ⟨0⟩⟩ = true ∧ c'.find? (.named "main") "A" = none := by
  refine ⟨rfl, rfl, rfl, rfl, ?_⟩
  rintro handle (rfl | rfl)
  · exact ⟨_, _, rfl, rfl, rfl⟩
  · exact ⟨_, _, rfl, rfl, rfl⟩

end Workspace

end GeometryIndex

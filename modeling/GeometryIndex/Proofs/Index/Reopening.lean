import GeometryIndex.Proofs.Index.Histories
import GeometryIndex.Proofs.Storage.Names

/-!
# Indexes — opening again

That an index has to be rebuilt is known to its handle alone.  What is left when the handle is given
up is the map under the name of the index: an index of the same id that is opened again gets this
map, and asks to be rebuilt if it finds it without keys.

* `Database.find?_after`: names stay as they are as long as no index is dropped;
* `Index.reopened_needs_rebuild_iff`: so an index that is opened again asks to be rebuilt exactly if
  no key is left in its map, however far an earlier rebuild had come;
* `Index.interrupted_rebuild_forgotten`: one that was given up after its first row is not taken up.
-/

namespace GeometryIndex

open Catalog

/-! ### Names -/

namespace Index

variable (ix : Index) (session : Session) (row : Row) (c : Catalog)

theorem directory_add : (ix.add session row c).catalog.directory = c.directory := by
  rcases ix.add_cases session row c with ⟨key, -, -, -, hcatalog⟩ | ⟨e, -, hcatalog⟩
  · rw [hcatalog, (ix.map.refills_add key c).directory_eq]
  · rw [hcatalog]

theorem directory_remove : (ix.remove session row c).catalog.directory = c.directory := by
  rcases ix.remove_cases session row c with ⟨key, -, -, -, hcatalog⟩ | ⟨e, -, hcatalog⟩
  · rw [hcatalog, (ix.map.refills_remove key c).directory_eq]
  · rw [hcatalog]

theorem directory_truncate : (ix.truncate session c).catalog.directory = c.directory := by
  rcases ix.truncate_cases session c with ⟨-, -, hcatalog⟩ | ⟨e, -, hcatalog⟩
  · rw [hcatalog, (ix.map.refills_clear c).directory_eq]
  · rw [hcatalog]

theorem directory_close : (ix.close session c).catalog.directory = c.directory := by
  rcases ix.close_catalog session c with hsame | hclose
  · rw [hsame]
  · rw [hclose]
    rfl

end Index

/-- Whether an index is dropped. -/
def Request.isDrop : Request → Bool
  | .index _ (.drop _) => true
  | _ => false

namespace Database

variable {db : Database} {storage : Storage} {name : String} {map : MapId}

/-- An index that is not dropped leaves the names alone. -/
theorem directory_performOn (db : Database) (name : String) (ix : Index) {request : IndexRequest}
    (hkeep : (Request.index name request).isDrop = false) :
    (db.performOn name ix request).database.catalog.directory = db.catalog.directory := by
  cases request with
  | add session row =>
    rw [performOn, catalog_operate fun _ _ => rfl, Index.directory_add]
  | put session row table =>
    rw [performOn, catalog_operate fun _ _ => rfl, Index.directory_add]
  | remove session row =>
    rw [performOn, catalog_operate fun _ _ => rfl, Index.directory_remove]
  | truncate session =>
    rw [performOn, catalog_operate fun _ _ => rfl, Index.directory_truncate]
  | close session =>
    rw [performOn, catalog_operate fun _ _ => rfl, Index.directory_close]
  | markRebuilt => rw [performOn, catalog_operate fun _ _ => rfl, Index.markRebuilt_eq]
  | find session => rw [performOn, catalog_operate fun _ _ => rfl, Index.find_catalog]
  | search session row => rw [performOn, catalog_operate fun _ _ => rfl, Index.search_catalog]
  | cursor session row => rw [performOn, catalog_operate fun _ _ => rfl, Index.search_catalog]
  | key row =>
    rw [performOn, catalog_operate fun _ _ => rfl]
    cases ix.key row <;> rfl
  | drop session => cases hkeep
  | setCost | cost | info | describe => rfl

end Database

/-! ### Opening -/

/-- A map that is opened is what its name leads to afterwards; other names lead where they did. -/
theorem StoreId.find?_openMap {c c' : Catalog} {store : StoreId} {storage : Storage} {name : String}
    {handle : MapHandle} {log : List LogEntry} (hstorage : c.storageOf? store = some storage)
    (hopen : store.openMap name c = ⟨.ok handle, c', log⟩) :
    c'.find? storage name = some handle.map ∧
      ∀ storage' name' map, c.find? storage' name' = some map →
        c'.find? storage' name' = some map := by
  cases hclosed : c.isStoreClosed store with
  | true =>
    rw [openMap_of_closed hclosed] at hopen
    cases hopen
  | false =>
    obtain ⟨s, hs, hsopen⟩ := isStoreClosed_eq_false hclosed
    obtain rfl := Option.some.inj ((storageOf?_of_getElem? hs).symm.trans hstorage)
    cases hfind : c.find? s.storage name with
    | some map =>
      rw [openMap_of_some hs hsopen hfind] at hopen
      cases hopen
      exact ⟨hfind, fun _ _ _ => id⟩
    | none =>
      rw [openMap_of_none hs hsopen hfind] at hopen
      cases hopen
      exact ⟨by rw [find?_create, if_pos rfl], fun _ _ _ => find?_create_of_some hfind⟩

/-- Opening a map changes no content. -/
theorem StoreId.entries_openMap (c : Catalog) (store : StoreId) (name : String) (map : MapId) :
    (store.openMap name c).catalog.entries map = c.entries map := by
  rcases openMap_catalog c store name with hsame | ⟨s, -, -, hcreate⟩
  · rw [hsame]
  · rw [hcreate, entries_create]

namespace Session

variable {session : Session} {d : Declaration} {table : String} {c : Catalog} {ix : Index}

theorem storageOf?_new (c : Catalog) (storage : Storage) :
    (c.addStore storage).storageOf? ⟨c.stores.length⟩ = some storage := by
  simp [addStore, storageOf?]

/-- Names lead where they did after an index is opened. -/
theorem find?_openIndex {storage : Storage} {name : String} {map : MapId}
    (hfind : c.find? storage name = some map) :
    (session.openIndex d table c).catalog.find? storage name = some map := by
  rcases session.openIndex_cases d table c with
    ⟨column, storage', map', log, -, -, hopen, -⟩ | ⟨e, -, hcatalog⟩
  · exact (StoreId.find?_openMap (storageOf?_new c storage') hopen).2 storage name map hfind
  · rw [hcatalog, hfind]

/-- **What a persistent index is opened with**: the map under its name in the storage of the
session, with the keys it had. -/
theorem openIndex_persistent (hopened : (session.openIndex d table c).answer = .ok ix)
    (hpersistent : d.persistent = true) :
    ∃ storage, session.storage = some storage ∧
      (session.openIndex d table c).catalog.find? (.named storage) d.mapName = some ix.map.map ∧
      ix.needsRebuild = d.needsRebuild (ix.rowCount c) := by
  rcases session.openIndex_cases d table c with
    ⟨column, storage, map, log, hstorage, -, hopen, hanswer⟩ | ⟨e, herror, -⟩
  · obtain rfl := Except.ok.inj (hanswer.symm.trans hopened)
    rw [hpersistent] at hstorage
    obtain ⟨storage, hsession, rfl⟩ := Option.map_eq_some_iff.mp hstorage
    refine ⟨storage, hsession, (StoreId.find?_openMap (storageOf?_new c _) hopen).1, ?_⟩
    have hentries := StoreId.entries_openMap (c.addStore (.named storage)) ⟨c.stores.length⟩
      d.mapName map
    rw [hopen] at hentries
    show d.needsRebuild ((session.openIndex d table c).catalog.entries map).size = _
    rw [hentries]
    rfl
  · rw [herror] at hopened
    cases hopened

end Session

namespace Database

variable {db : Database} {storage : Storage} {name : String} {map : MapId}

theorem find?_perform {request : Request} (hkeep : request.isDrop = false)
    (hfind : db.catalog.find? storage name = some map) :
    (db.perform request).database.catalog.find? storage name = some map := by
  cases request with
  | openIndex name' session d table =>
    rw [perform, catalog_operate fun _ _ => rfl]
    exact Session.find?_openIndex hfind
  | index name' request =>
    cases hix : db.index? name' with
    | none =>
      simp only [perform, hix]
      exact hfind
    | some ix =>
      rw [perform_index hix, Catalog.find?, directory_performOn db name' ix hkeep]
      exact hfind
  | insertRow | deleteRow | mapNames | containsMap => exact hfind

/-- **Names stay as they are** as long as no index is dropped. -/
theorem find?_after {requests : List Request} (hkeep : ∀ request ∈ requests, request.isDrop = false)
    (hfind : db.catalog.find? storage name = some map) :
    (db.after requests).catalog.find? storage name = some map := by
  induction requests generalizing db with
  | nil => exact hfind
  | cons request requests ih =>
    obtain ⟨hrequest, hrequests⟩ := List.forall_mem_cons.mp hkeep
    exact ih hrequests (find?_perform hrequest hfind)

/-- The catalog after an index was opened in the course of a history. -/
theorem after_openIndex (earlier steps : List Request) (name : String) (session : Session)
    (d : Declaration) (table : String) :
    (empty.after (earlier ++ .openIndex name session d table :: steps)) =
      ((empty.after earlier).perform (.openIndex name session d table)).database.after steps := by
  rw [after, List.foldl_append]
  rfl

end Database

/-! ### An index that is opened again -/

/-- The sample opened again, as an index that is there. -/
def Declaration.again : Declaration := { Declaration.sample with create := false }

namespace Index

open Database

variable {session session' : Session} {d d' : Declaration} {table table' name : String}
  {ix ix' : Index}

/-- **When an index that is opened again has to be rebuilt.**  After any history, a persistent index
is opened, and whatever then happens, with or without its being marked as rebuilt, an index of the
same id is opened again from the same storage, as one that is there.  It asks to be rebuilt if and
only if it counts no keys at this moment, which is to say that its map was left without keys, as
long as they do not exhaust a word of 64 bits.  If no index was dropped meanwhile, its map is that
of the index before. -/
theorem reopened_needs_rebuild_iff (earlier steps : List Request)
    (hopened : (session.openIndex d table (empty.after earlier).catalog).answer = .ok ix)
    (hreopened : (session'.openIndex d' table' (empty.after
      (earlier ++ .openIndex name session d table :: steps)).catalog).answer = .ok ix')
    (hpersistent : d.persistent = true) (hpersistent' : d'.persistent = true)
    (hcreate : d'.create = false) (hid : d'.id = d.id)
    (hstorage : session'.storage = session.storage) :
    let history := earlier ++ .openIndex name session d table :: steps
    let left := contents history ix'.map.map
    ((∀ step ∈ steps, step.isDrop = false) → ix'.map.map = ix.map.map) ∧
      (ix'.needsRebuild = true ↔ ix'.rowCount (empty.after history).catalog = 0) ∧
      (left.card < UInt64.size → (ix'.needsRebuild = true ↔ left = 0)) := by
  intro history left
  obtain ⟨storage, hsession, hfind, -⟩ := Session.openIndex_persistent hopened hpersistent
  obtain ⟨storage', hsession', hfind', hneeds⟩ :=
    Session.openIndex_persistent hreopened hpersistent'
  have hcount : ix'.needsRebuild = true ↔ ix'.rowCount (empty.after history).catalog = 0 := by
    rw [hneeds, Declaration.needsRebuild, hcreate, hpersistent', Bool.false_or, Bool.true_and,
      decide_eq_true_iff]
  refine ⟨fun hkeep => ?_, hcount, fun hfits => ?_⟩
  · -- The name of the map depends on the id only, and both sessions look in the same storage.
    have hname : d'.mapName = d.mapName := by
      rw [Declaration.mapName, Declaration.mapName, hpersistent, hpersistent', hid]
    obtain rfl : storage' = storage :=
      Option.some.inj (hsession'.symm.trans (hstorage.trans hsession))
    have hkept : (empty.after history).catalog.find? (.named storage') d.mapName =
        some ix.map.map := by
      rw [after_openIndex]
      refine find?_after hkeep ?_
      rw [perform, catalog_operate fun _ _ => rfl]
      exact hfind
    have hstill : (session'.openIndex d' table' (empty.after history).catalog).catalog.find?
        (.named storage') d.mapName = some ix.map.map :=
      Session.find?_openIndex hkept
    rw [hname] at hfind'
    exact Option.some.inj (hfind'.symm.trans hstill)
  · rw [hcount, rowCount_eq (reachable_after history), UInt64.ofNat_eq_iff_mod_eq_toNat,
      Nat.mod_eq_of_lt hfits]
    exact Multiset.card_eq_zero

/-- A rebuild that is given up after its first row is taken back. -/
def emptiedSteps : List Request :=
  [.index "i" (.add .sample ⟨1, []⟩), .index "i" (.truncate .sample), .index "i" (.close .sample)]

theorem reopened_needs_rebuild_emptied :
    (Session.sample.openIndex .sample "T" (empty.after []).catalog).answer = .ok (.sample ⟨0⟩) ∧
      ∃ ix', (Session.sample.openIndex .again "T" (empty.after
          ([] ++ .openIndex "i" .sample .sample "T" :: emptiedSteps)).catalog).answer = .ok ix' ∧
        ix'.map.map = ⟨0⟩ ∧ ix'.needsRebuild = true := by
  have hopened :
      (Session.sample.openIndex .sample "T" (empty.after []).catalog).answer = .ok (.sample ⟨0⟩) :=
    rfl
  have hreopened : (Session.sample.openIndex .again "T" (empty.after
      ([] ++ .openIndex "i" .sample .sample "T" :: emptiedSteps)).catalog).answer =
        .ok (.sample ⟨1⟩) :=
    rfl
  obtain ⟨hmap, hcount, -⟩ := reopened_needs_rebuild_iff [] emptiedSteps hopened hreopened rfl rfl
    rfl rfl rfl
  exact ⟨hopened, _, hreopened, hmap (by decide), hcount.mpr (by decide)⟩

/-- A rebuild that is given up after its first row. -/
def interruptedSteps : List Request :=
  [.index "i" (.add .sample ⟨1, []⟩), .index "i" (.close .sample)]

/-- **A rebuild that was interrupted is forgotten.**  The index asks to be rebuilt, is given one row
and closed, and never marked as rebuilt; opened again, over the same map, it does not ask. -/
theorem interrupted_rebuild_forgotten :
    (Session.sample.openIndex .sample "T" .empty).answer = .ok (.sample ⟨0⟩) ∧
      (Index.sample ⟨0⟩).needsRebuild = true ∧
      ∃ ix', (Session.sample.openIndex .again "T" (empty.after
          (.openIndex "i" .sample .sample "T" :: interruptedSteps)).catalog).answer = .ok ix' ∧
        ix'.map.map = (Index.sample ⟨0⟩).map.map ∧ ix'.needsRebuild = false :=
  ⟨rfl, rfl, _, rfl, rfl, rfl⟩

end Index

end GeometryIndex

import GeometryIndex.Proofs.Index.Histories
import GeometryIndex.Proofs.Index.Workspaces
import Std.Data.String.ToInt

/-!
# Indexes — what an index is tied to

An index has a store over one storage, and a map that was created there under the name of the index
(`Index.Tied`).  Whatever is asked of it changes the catalog in what it is tied to, and nowhere else
(`Index.Touches`).  Persistent indexes of different ids have maps of different names
(`Index.mapNameOf_injective`).

* `Database.tied_perform`, `Database.tied_after`: the indexes of a database stay tied;
* `Index.Touches.sameIn`: so one that is tied to another storage leaves a storage as it is.
-/

namespace GeometryIndex

open Catalog (Change Changes)

/-! ### Names of maps -/

namespace Index

/-- The name of the map of the persistent index of an id. -/
def mapNameOf (id : Int32) : String := s!"RTREE_{id}"

theorem mapNameOf_injective : Function.Injective mapNameOf := by
  intro id id' h
  have hdigits : id.toInt.repr = id'.toInt.repr := (String.append_right_inj "RTREE_").mp h
  exact Int32.toInt_inj.mp (Int.repr_inj.mp hdigits)

end Index

theorem Declaration.mapName_of_persistent {d : Declaration} (h : d.persistent = true) :
    d.mapName = Index.mapNameOf d.id := by
  rw [mapName, if_pos h]
  rfl

/-! ### Later catalogs -/

namespace Catalog

variable {c c' c'' : Catalog} {given : List MapHandle}

/-- Nothing in a later catalog leads to an old map that did not lead to it before, and stores keep
their storage. -/
structure Later (c c' : Catalog) : Prop where
  maps : c.maps.length ≤ c'.maps.length
  storageOf? : ∀ store storage, c.storageOf? store = some storage →
    c'.storageOf? store = some storage
  find? : ∀ storage name map, c'.find? storage name = some map → map.number < c.maps.length →
    c.find? storage name = some map

theorem Later.refl (c : Catalog) : c.Later c := ⟨Nat.le_refl _, fun _ _ => id, fun _ _ _ h _ => h⟩

theorem Later.trans (h : c.Later c') (h' : c'.Later c'') : c.Later c'' where
  maps := Nat.le_trans h.maps h'.maps
  storageOf? store storage hs := h'.storageOf? store storage (h.storageOf? store storage hs)
  find? storage name map hfind hlt :=
    h.find? storage name map (h'.find? storage name map hfind (Nat.lt_of_lt_of_le hlt h.maps)) hlt

theorem Change.later (h : Change c given c') : c.Later c' := by
  have hstorage : ∀ store storage, c.storageOf? store = some storage →
      c'.storageOf? store = some storage := fun _ _ => h.storageOf?_eq
  cases h with
  | addStore | closeStore | find => exact ⟨Nat.le_refl _, hstorage, fun _ _ _ hfind _ => hfind⟩
  | setEntries map e =>
    refine ⟨?_, hstorage, fun _ _ _ hfind _ => hfind⟩
    simp [Catalog.setEntries]
  | create hs hnone =>
    refine ⟨?_, hstorage, fun storage name map hfind hlt => ?_⟩
    · simp [Catalog.create]
    · rw [find?_create] at hfind
      split at hfind
      · obtain rfl := Option.some.inj hfind
        exact absurd hlt (Nat.lt_irrefl _)
      · exact hfind
  | remove hfound =>
    refine ⟨?_, hstorage, fun storage name map hfind _ => ?_⟩
    · simp [Catalog.remove]
    · rw [find?_remove] at hfind
      split at hfind
      · cases hfind
      · exact hfind

theorem Changes.later (h : Changes c given c') : c.Later c' := by
  induction h with
  | refl c => exact .refl c
  | more hchange _ ih => exact hchange.later.trans ih

end Catalog

/-! ### Ties -/

namespace Index

variable {ix ix' : Index} {storage : Storage} {c c' : Catalog} {session : Session}

/-- What ties an index to a storage: its store is over it, and only its own name there can lead to
its map. -/
structure Tied (ix : Index) (storage : Storage) (c : Catalog) : Prop where
  created : ix.map.map.number < c.maps.length
  opened : c.storageOf? ix.store = some storage
  named : ∀ S, storage = .named S → ix.map.name = mapNameOf ix.id
  origin : ∀ storage' name, c.find? storage' name = some ix.map.map →
    storage' = storage ∧ name = ix.map.name

theorem Tied.later (h : ix.Tied storage c) (hlater : c.Later c') : ix.Tied storage c' where
  created := Nat.lt_of_lt_of_le h.created hlater.maps
  opened := hlater.storageOf? _ _ h.opened
  named := h.named
  origin storage' name hfind := h.origin storage' name (hlater.find? _ _ _ hfind h.created)

/-- An index with the same id, store and map is tied to the same. -/
theorem Tied.congr (h : ix.Tied storage c) (hid : ix'.id = ix.id) (hlink : ix'.link = ix.link) :
    ix'.Tied storage c := by
  obtain ⟨hstore, hmap⟩ := Prod.mk.inj hlink
  obtain ⟨hcreated, hopened, hnamed, horigin⟩ := h
  exact ⟨hmap ▸ hcreated, hstore ▸ hopened, hmap ▸ hid ▸ hnamed, hmap ▸ horigin⟩

/-! ### What a request touches -/

/-- What can happen to a catalog by way of an index over a storage: the content of its map is set,
its store is closed, or the map that has its name is removed. -/
inductive Touches (ix : Index) (storage : Storage) (c : Catalog) : Catalog → Prop
  | refl : Touches ix storage c c
  | setEntries (e : Entries) : Touches ix storage c (c.setEntries ix.map.map e)
  | closeStore : Touches ix storage c (c.closeStore ix.store)
  | remove {map : MapId} (hfind : c.find? storage ix.map.name = some map) :
      Touches ix storage c (c.remove storage ix.map.name map)

theorem Touches.of_refills (h : c.Refills ix.map.map c') : ix.Touches storage c c' := by
  rcases h with rfl | ⟨e, rfl⟩
  · exact .refl
  · exact .setEntries e

theorem Touches.changes (h : ix.Touches storage c c') : Changes c [] c' := by
  cases h with
  | refl => exact .refl c
  | setEntries e => exact (Change.setEntries ix.map.map e).changes
  | closeStore => exact (Change.closeStore ix.store).changes
  | remove hfind => exact (Change.remove hfind).changes

theorem Touches.storageOf?_eq (h : ix.Touches storage c c') (store : StoreId) :
    c'.storageOf? store = c.storageOf? store := by
  cases h with
  | refl | setEntries | remove => rfl
  | closeStore => exact Catalog.storageOf?_closeStore ix.store store

theorem touches_add (row : Row) : ix.Touches storage c (ix.add session row c).catalog := by
  rcases ix.add_cases session row c with ⟨key, -, -, -, hcatalog⟩ | ⟨e, -, hcatalog⟩
  · rw [hcatalog]
    exact .of_refills (ix.map.refills_add key c)
  · rw [hcatalog]
    exact .refl

theorem touches_remove (row : Row) : ix.Touches storage c (ix.remove session row c).catalog := by
  rcases ix.remove_cases session row c with ⟨key, -, -, -, hcatalog⟩ | ⟨e, -, hcatalog⟩
  · rw [hcatalog]
    exact .of_refills (ix.map.refills_remove key c)
  · rw [hcatalog]
    exact .refl

theorem touches_truncate : ix.Touches storage c (ix.truncate session c).catalog := by
  rcases ix.truncate_cases session c with ⟨-, -, hcatalog⟩ | ⟨e, -, hcatalog⟩
  · rw [hcatalog]
    exact .of_refills (ix.map.refills_clear c)
  · rw [hcatalog]
    exact .refl

theorem touches_close : ix.Touches storage c (ix.close session c).catalog := by
  rcases ix.close_catalog session c with hsame | hclose
  · rw [hsame]
    exact .refl
  · rw [hclose]
    exact .closeStore

theorem touches_drop (hopened : c.storageOf? ix.store = some storage) :
    ix.Touches storage c (ix.drop session c).catalog := by
  rcases ix.drop_catalog session c with hsame | hdrop
  · rw [hsame]
    exact .refl
  · rw [hdrop]
    cases hclosed : c.isStoreClosed ix.store with
    | true =>
      rw [StoreId.removeMap_of_closed hclosed]
      exact .refl
    | false =>
      obtain ⟨s, hs, hopen⟩ := Catalog.isStoreClosed_eq_false hclosed
      obtain rfl := Option.some.inj ((Catalog.storageOf?_of_getElem? hs).symm.trans hopened)
      cases hfind : c.find? s.storage ix.map.name with
      | some map =>
        rw [StoreId.removeMap_of_some hs hopen hfind]
        exact .remove hfind
      | none =>
        rw [StoreId.removeMap_of_none hs hopen hfind]
        exact .refl

end Index

/-! ### Opening -/

namespace Session

variable {session : Session} {d : Declaration} {table : String} {c : Catalog} {ix : Index}
  {storage : Storage}

/-- What opening an index comes to: a new store, and the map of the name in its storage, which is
created if there is none. -/
structure Opens (d : Declaration) (storage : Storage) (c : Catalog) (ix : Index) (c' : Catalog) :
    Prop where
  id : ix.id = d.id
  store : ix.store = ⟨c.stores.length⟩
  name : ix.map.name = d.mapName
  catalog : (c.find? storage d.mapName = some ix.map.map ∧ c' = c.addStore storage) ∨
    (c.find? storage d.mapName = none ∧ ix.map.map = ⟨c.maps.length⟩ ∧
      c' = (c.addStore storage).create storage d.mapName)

/-- An index that cannot be opened leaves nothing behind. -/
theorem catalog_of_openIndex {e : Error} (h : (session.openIndex d table c).answer = .error e) :
    (session.openIndex d table c).catalog = c := by
  rcases session.openIndex_changes d table c with ⟨ix, hok, -⟩ | ⟨_, -, hsame⟩
  · rw [h] at hok
    cases hok
  · exact hsame

theorem storageFor_eq_named {persistent : Bool} {S : String} :
    session.storageFor persistent c = some (.named S) ↔
      persistent = true ∧ session.storage = some S := by
  cases persistent with
  | true => simp [storageFor]
  | false => simp [storageFor]

theorem openIndex_opens (hok : (session.openIndex d table c).answer = .ok ix) :
    ∃ storage, session.storageFor d.persistent c = some storage ∧
      Opens d storage c ix (session.openIndex d table c).catalog := by
  rcases session.openIndex_cases d table c with
    ⟨column, storage, map, log, hstorage, -, hopen, hanswer⟩ | ⟨e, herror, -⟩
  · obtain rfl := Except.ok.inj (hanswer.symm.trans hok)
    refine ⟨storage, hstorage, rfl, rfl, rfl, ?_⟩
    have hnew : (c.addStore storage).stores[c.stores.length]? = some ⟨storage, false⟩ := by
      simp [Catalog.addStore]
    cases hfind : c.find? storage d.mapName with
    | some found =>
      rw [StoreId.openMap_of_some hnew rfl hfind] at hopen
      obtain ⟨hhandle, hcatalog, -⟩ := Effect.mk.inj hopen
      cases hhandle
      exact .inl ⟨rfl, hcatalog.symm⟩
    | none =>
      rw [StoreId.openMap_of_none hnew rfl hfind] at hopen
      obtain ⟨hhandle, hcatalog, -⟩ := Effect.mk.inj hopen
      cases hhandle
      exact .inr ⟨rfl, rfl, hcatalog.symm⟩
  · rw [herror] at hok
    cases hok

end Session

namespace Session.Opens

variable {session : Session} {d : Declaration} {c c' : Catalog} {ix : Index} {storage : Storage}

/-- The storage of a session, and the next private one. -/
theorem storageFor_known {persistent : Bool} (h : session.storageFor persistent c = some storage)
    (number : Nat) (hnumber : storage = .ephemeral number) : number < c.stores.length + 1 := by
  subst hnumber
  cases persistent with
  | true =>
    obtain ⟨name, -, hname⟩ := Option.map_eq_some_iff.mp h
    cases hname
  | false =>
    obtain rfl := Storage.ephemeral.inj (Option.some.inj h)
    exact Nat.lt_succ_self _

theorem changes (h : Opens d storage c ix c')
    (hstorage : session.storageFor d.persistent c = some storage) :
    ∃ given, Changes c given c' := by
  have hadd := Change.addStore storage (storageFor_known hstorage)
  rcases h.catalog with ⟨-, rfl⟩ | ⟨hnone, -, rfl⟩
  · exact ⟨_, hadd.changes⟩
  · let store : StoreId := ⟨c.stores.length⟩
    have hnew : (c.addStore storage).stores[store.number]? = some ⟨storage, false⟩ := by
      simp [Catalog.addStore, store]
    exact ⟨_, .more hadd (Change.create hnew hnone).changes⟩

/-- Stores that were there keep their storage. -/
theorem storageOf?_eq (h : Opens d storage c ix c') {store : StoreId} {storage' : Storage}
    (hknown : c.storageOf? store = some storage') : c'.storageOf? store = some storage' := by
  have hstores : c'.stores = (c.addStore storage).stores := by
    rcases h.catalog with ⟨-, rfl⟩ | ⟨-, -, rfl⟩ <;> rfl
  rw [Catalog.storageOf?, hstores, Catalog.getElem?_addStore (Catalog.lt_of_storageOf? hknown)]
  exact hknown

/-- An index is tied to the storage that it is opened over. -/
theorem tied (h : Opens d storage c ix c') (hwell : c.WellFormed)
    (hstorage : session.storageFor d.persistent c = some storage) : ix.Tied storage c' := by
  have hopened : (c.addStore storage).storageOf? ⟨c.stores.length⟩ = some storage := by
    simp [Catalog.addStore, Catalog.storageOf?]
  have hnamed : ∀ S, storage = .named S → ix.map.name = Index.mapNameOf ix.id := by
    rintro S rfl
    rw [h.name, h.id]
    cases hpersistent : d.persistent with
    | true => exact d.mapName_of_persistent hpersistent
    | false =>
      rw [hpersistent] at hstorage
      cases hstorage
  rcases h.catalog with ⟨hfind, rfl⟩ | ⟨hnone, hmap, rfl⟩
  · refine ⟨Catalog.lt_of_isRemoved (hwell.isRemoved_of_find? hfind), h.store ▸ hopened, hnamed,
      fun storage' name hname => ?_⟩
    obtain ⟨rfl, rfl⟩ := hwell.find?_injective hname hfind
    exact ⟨rfl, h.name.symm⟩
  · refine ⟨?_, h.store ▸ hopened, hnamed, fun storage' name hname => ?_⟩
    · rw [hmap]
      simp [Catalog.create, Catalog.addStore]
    · rw [Catalog.find?_create] at hname
      split at hname
      · next hkey =>
        obtain ⟨rfl, rfl⟩ := Prod.mk.inj hkey
        exact ⟨rfl, h.name.symm⟩
      · have hlt := Catalog.lt_of_isRemoved (hwell.isRemoved_of_find? hname)
        rw [hmap] at hlt
        exact absurd hlt (Nat.lt_irrefl _)

end Session.Opens

/-! ### Requests -/

namespace Database

variable {db : Database} {name : String} {ix : Index} {storage : Storage} {α : Type}

theorem index?_setIndex (db : Database) (name : String) (ix : Index) (sought : String) :
    (db.setIndex name ix).index? sought = if sought = name then some ix else db.index? sought := by
  rw [index?, setIndex, List.lookup_cons, Catalog.lookup_filter_ne]
  by_cases h : sought = name
  · rw [h, beq_self_eq_true, if_pos rfl, if_pos rfl]
  · rw [beq_eq_false_iff_ne.mpr h, if_neg h, if_neg h]
    rfl

theorem index?_operate {op : Operation α} {next : α → Database → Reply × Database}
    (hnext : ∀ a db, (next a db).2.indexes = db.indexes) (sought : String) :
    (db.operate op next).database.index? sought = db.index? sought := by
  rw [index?, index?]
  cases hanswer : (op db.catalog).answer with
  | ok a => rw [operate_of_ok hanswer, hnext]
  | error e => rw [operate_of_error hanswer]

/-- **A request to an index** touches what the index is tied to. -/
theorem touches_performOn (name : String) (hopened : db.catalog.storageOf? ix.store = some storage)
    (request : IndexRequest) :
    ix.Touches storage db.catalog (db.performOn name ix request).database.catalog := by
  cases request with
  | add session row | put session row table =>
    rw [performOn, catalog_operate fun _ _ => rfl]
    exact Index.touches_add row
  | remove session row =>
    rw [performOn, catalog_operate fun _ _ => rfl]
    exact Index.touches_remove row
  | truncate session =>
    rw [performOn, catalog_operate fun _ _ => rfl]
    exact Index.touches_truncate
  | close session =>
    rw [performOn, catalog_operate fun _ _ => rfl]
    exact Index.touches_close
  | drop session =>
    rw [performOn, catalog_operate fun _ _ => rfl]
    exact Index.touches_drop hopened
  | markRebuilt =>
    rw [performOn, catalog_operate fun _ _ => rfl, Index.markRebuilt_eq]
    exact .refl
  | find session =>
    rw [performOn, catalog_operate fun _ _ => rfl, Index.find_catalog]
    exact .refl
  | search session row | cursor session row =>
    rw [performOn, catalog_operate fun _ _ => rfl, Index.search_catalog]
    exact .refl
  | key row =>
    rw [performOn, catalog_operate fun _ _ => rfl]
    cases ix.key row <;> exact .refl
  | setCost | cost | info | describe => exact .refl

/-- The index keeps its id, its store and its map under a request, and other names are as before. -/
theorem index?_performOn (hix : db.index? name = some ix) (request : IndexRequest) :
    ∃ ix', ix'.id = ix.id ∧ ix'.link = ix.link ∧ ∀ sought,
      (db.performOn name ix request).database.index? sought =
        if sought = name then some ix' else db.index? sought := by
  -- Most requests leave the index itself as it is.
  have same (hsame : ∀ sought, (db.performOn name ix request).database.index? sought =
      db.index? sought) : ∃ ix', ix'.id = ix.id ∧ ix'.link = ix.link ∧ ∀ sought,
      (db.performOn name ix request).database.index? sought =
        if sought = name then some ix' else db.index? sought := by
    refine ⟨ix, rfl, rfl, fun sought => ?_⟩
    rw [hsame]
    split
    · next h => rw [h, hix]
    · rfl
  cases request with
  | close session =>
    cases hclosed : ix.closed with
    | true =>
      refine ⟨ix, rfl, rfl, fun sought => ?_⟩
      rw [performOn, operate_of_ok (by rw [Index.close_of_closed hclosed])]
      exact index?_setIndex _ name ix sought
    | false =>
      refine ⟨{ ix with closed := true }, rfl, rfl, fun sought => ?_⟩
      rw [performOn, operate_of_ok (by rw [Index.close_of_open hclosed])]
      exact index?_setIndex _ name _ sought
  | markRebuilt =>
    refine ⟨{ ix with needsRebuild := false }, rfl, rfl, fun sought => ?_⟩
    rw [performOn, operate_of_ok (by rw [Index.markRebuilt_eq])]
    exact index?_setIndex _ name _ sought
  | setCost cost =>
    exact ⟨{ ix with cost }, rfl, rfl, fun sought => index?_setIndex _ name _ sought⟩
  | cost | info | describe => exact same fun _ => rfl
  | add | put | remove | key | find | search | cursor | truncate | drop =>
    exact same fun sought => index?_operate (fun _ _ => rfl) sought

/-- Every index is tied to a storage. -/
def Tied (db : Database) : Prop :=
  ∀ name ix, db.index? name = some ix → ∃ storage, ix.Tied storage db.catalog

theorem tied_empty : empty.Tied := fun _ _ h => by cases h

/-- **One request** leaves the indexes tied. -/
theorem tied_perform (h : db.Tied) (hwell : db.catalog.WellFormed) (request : Request) :
    (db.perform request).database.Tied := by
  cases request with
  | openIndex name session d table =>
    rw [perform]
    cases hanswer : (session.openIndex d table db.catalog).answer with
    | ok ix =>
      obtain ⟨storage, hstorage, hopens⟩ := Session.openIndex_opens hanswer
      obtain ⟨given, hchanges⟩ := hopens.changes hstorage
      rw [operate_of_ok hanswer]
      intro sought other hother
      rw [index?_setIndex] at hother
      split at hother
      · obtain rfl := Option.some.inj hother
        exact ⟨storage, hopens.tied hwell hstorage⟩
      · obtain ⟨storage', htied⟩ := h sought other hother
        exact ⟨storage', htied.later hchanges.later⟩
    | error e =>
      rw [operate_of_error hanswer, Session.catalog_of_openIndex hanswer]
      exact h
  | index name request =>
    cases hix : db.index? name with
    | none =>
      simp only [perform, hix]
      exact h
    | some ix =>
      rw [perform_index hix]
      obtain ⟨storage, htied⟩ := h name ix hix
      have hlater := (touches_performOn name htied.opened request).changes.later
      obtain ⟨ix', hid, hlink, hindexes⟩ := index?_performOn hix request
      intro sought other hother
      rw [hindexes] at hother
      split at hother
      · obtain rfl := Option.some.inj hother
        exact ⟨storage, (htied.congr hid hlink).later hlater⟩
      · obtain ⟨storage', htied'⟩ := h sought other hother
        exact ⟨storage', htied'.later hlater⟩
  | insertRow | deleteRow | mapNames | containsMap => exact h

/-- **A history** leaves the indexes tied. -/
theorem tied_after (requests : List Request) : (empty.after requests).Tied := by
  suffices ∀ (db : Database) (M : Contents), Catalog.Reachable db.catalog M → db.Tied →
      (db.after requests).Tied from this empty _ .empty tied_empty
  induction requests with
  | nil => exact fun _ _ _ h => h
  | cons request requests ih =>
    exact fun db M hreachable h =>
      ih _ _ (reachable_perform hreachable request) (tied_perform h hreachable.wellFormed request)

end Database

/-! ### Other storages -/

namespace Catalog

variable {c c' : Catalog} {storage storage' : Storage} {name : String} {map : MapId}

/-- A storage has the same names, and under them the same maps with the same content. -/
structure SameIn (storage : Storage) (c c' : Catalog) : Prop where
  find? : ∀ name, c'.find? storage name = c.find? storage name
  names : c'.names storage = c.names storage
  entries : ∀ name map, c.find? storage name = some map → c'.entries map = c.entries map

theorem sameIn_create (hne : storage' ≠ storage) (name : String) :
    SameIn storage' c (c.create storage name) where
  find? name' := by rw [find?_create, if_neg fun hkey => hne (Prod.mk.inj hkey).1]
  names := by rw [names, names, create, List.filter_cons_of_neg (by simpa using hne.symm)]
  entries _ map _ := entries_create map

theorem sameIn_remove (hne : storage' ≠ storage) (name : String) (map : MapId) :
    SameIn storage' c (c.remove storage name map) where
  find? name' := by rw [find?_remove, if_neg fun hkey => hne (Prod.mk.inj hkey).1]
  names := by
    rw [names, names, remove, List.filter_filter]
    congr 3
    funext entry
    by_cases hentry : entry.1.1 = storage'
    · have hother : entry.1 ≠ (storage, name) := fun hkey =>
        hne (hentry.symm.trans (congrArg Prod.fst hkey))
      simp [hentry, hother]
    · simp [hentry]
  entries _ m _ := entries_remove m

end Catalog

namespace Index

variable {ix : Index} {storage storage' : Storage} {c c' : Catalog}

/-- **What an index is tied to** is all that it touches: other storages are as they were. -/
theorem Touches.sameIn (h : ix.Touches storage c c') (htied : ix.Tied storage c)
    (hne : storage' ≠ storage) : c.SameIn storage' c' := by
  cases h with
  | refl | closeStore => exact ⟨fun _ => rfl, rfl, fun _ _ _ => rfl⟩
  | setEntries e =>
    refine ⟨fun _ => rfl, rfl, fun name map hfind => Catalog.entries_setEntries_of_ne ?_ e⟩
    rintro rfl
    exact hne (htied.origin storage' name hfind).1
  | remove => exact Catalog.sameIn_remove hne _ _

end Index

theorem Session.Opens.sameIn {d : Declaration} {storage storage' : Storage} {c c' : Catalog}
    {ix : Index} (h : Opens d storage c ix c') (hne : storage' ≠ storage) :
    c.SameIn storage' c' := by
  rcases h.catalog with ⟨-, rfl⟩ | ⟨-, -, rfl⟩
  · exact ⟨fun _ => rfl, rfl, fun _ _ _ => rfl⟩
  · obtain ⟨hfind, hnames, hentries⟩ :=
      Catalog.sameIn_create (c := c.addStore storage) hne d.mapName
    exact ⟨hfind, hnames, hentries⟩

end GeometryIndex

import GeometryIndex.Database
import GeometryIndex.Proofs.Index.Effects
import GeometryIndex.Proofs.Storage.Reachable

/-!
# Indexes — histories

The keys that a map should contain are read off a history of requests and their replies alone: an
addition that succeeded is one occurrence more, a removal that succeeded one less, a truncation that
succeeded leaves none, and nothing else counts (`IndexRequest.effect`, `Database.contents`).

* `Database.reachable_after`: what a history leaves is a catalog with these contents;
* `Database.history_refines`: hence every handle of an index counts and finds them, and removes a
  row if its key is among them.
-/

namespace GeometryIndex

/-- What a request that succeeds makes of the keys behind the index it was made to. -/
def IndexRequest.effect (ix : Index) (keys : Multiset Key) : IndexRequest → Multiset Key
  | .add _ row | .put _ row _ =>
    match ix.key row with
    | .ok k => k ::ₘ keys
    | .error _ => keys
  | .remove _ row =>
    match ix.key row with
    | .ok k => keys.erase k
    | .error _ => keys
  | .truncate _ => 0
  | _ => keys

namespace Database

/-- The contents of the maps after a request: only one that succeeds changes them. -/
def follow (db : Database) (M : Contents) : Request → Contents
  | .index name request =>
    match db.index? name, (db.perform (.index name request)).reply with
    | some ix, .ok _ => Function.update M ix.map.map (request.effect ix (M ix.map.map))
    | _, _ => M
  | _ => M

/-- The contents of the maps after a history. -/
def contentsFrom (db : Database) (M : Contents) : List Request → Contents
  | [] => M
  | request :: requests =>
    (db.perform request).database.contentsFrom (db.follow M request) requests

/-- The contents of the maps after a history that began with no maps. -/
def contents (requests : List Request) : Contents := empty.contentsFrom (fun _ => 0) requests

variable {db : Database} {M : Contents} {α : Type} {op : Operation α}
  {next : α → Database → Reply × Database}

/-! ### One request -/

theorem operate_of_ok {a : α} (h : (op db.catalog).answer = .ok a)
    (next : α → Database → Reply × Database) :
    db.operate op next =
      ⟨.ok (next a { db with catalog := (op db.catalog).catalog }).1,
        (next a { db with catalog := (op db.catalog).catalog }).2, (op db.catalog).log⟩ := by
  simp [operate, h]

theorem operate_of_error {e : Error} (h : (op db.catalog).answer = .error e)
    (next : α → Database → Reply × Database) :
    db.operate op next =
      ⟨.error (.error e), { db with catalog := (op db.catalog).catalog },
        (op db.catalog).log⟩ := by
  simp [operate, h]

/-- What comes after an operation only looks at the catalog. -/
theorem catalog_operate (hnext : ∀ a db', (next a db').2.catalog = db'.catalog) :
    (db.operate op next).database.catalog = (op db.catalog).catalog := by
  cases hanswer : (op db.catalog).answer with
  | ok a => rw [operate_of_ok hanswer, hnext]
  | error e => rw [operate_of_error hanswer]

theorem perform_index {name : String} {ix : Index} (hix : db.index? name = some ix)
    (request : IndexRequest) :
    db.perform (.index name request) = db.performOn name ix request := by
  simp only [perform, hix]

theorem follow_of_ok {name : String} {ix : Index} {request : IndexRequest} {reply : Reply}
    (hix : db.index? name = some ix) (hok : (db.performOn name ix request).reply = .ok reply) :
    db.follow M (.index name request) =
      Function.update M ix.map.map (request.effect ix (M ix.map.map)) := by
  simp only [follow, perform_index hix, hix, hok]

theorem follow_of_error {name : String} {ix : Index} {request : IndexRequest} {refusal : Refusal}
    (hix : db.index? name = some ix)
    (herror : (db.performOn name ix request).reply = .error refusal) :
    db.follow M (.index name request) = M := by
  simp only [follow, perform_index hix, hix, herror]

/-- A request that means nothing to the keys leaves them, whether it succeeds or not. -/
theorem follow_of_neutral {name : String} {ix : Index} {request : IndexRequest}
    (hix : db.index? name = some ix) (hneutral : ∀ keys, request.effect ix keys = keys) :
    db.follow M (.index name request) = M := by
  cases hreply : (db.performOn name ix request).reply with
  | error refusal => exact follow_of_error hix hreply
  | ok reply => rw [follow_of_ok hix hreply, hneutral, Function.update_eq_self]

end Database

open Catalog

variable {c : Catalog} {M : Contents}

theorem Catalog.Reachable.openIndex (h : Reachable c M) (session : Session) (d : Declaration)
    (table : String) : Reachable (session.openIndex d table c).catalog M := by
  rcases session.openIndex_cases d table c with
    ⟨column, storage, map, log, hstorage, -, hopen, -⟩ | ⟨e, -, hcatalog⟩
  · have hstore : Reachable (c.addStore storage) M := by
      cases hpersistent : d.persistent with
      | true =>
        rw [hpersistent] at hstorage
        obtain ⟨name, -, rfl⟩ := Option.map_eq_some_iff.mp hstorage
        exact h.openStore (.named name) fun n hn => by cases hn
      | false =>
        rw [hpersistent] at hstorage
        obtain rfl := Option.some.inj hstorage
        exact h.openEphemeral
    have hmap := hstore.openMap ⟨c.stores.length⟩ d.mapName
    rw [hopen] at hmap
    exact hmap
  · rw [hcatalog]
    exact h

theorem Catalog.Reachable.addRow (h : Reachable c M) (ix : Index) (session : Session) (row : Row) :
    (∃ key, ix.key row = .ok key ∧ (ix.add session row c).answer = .ok () ∧
        Reachable (ix.add session row c).catalog
          (Function.update M ix.map.map (key ::ₘ M ix.map.map))) ∨
      ∃ e, (ix.add session row c).answer = .error e ∧ (ix.add session row c).catalog = c := by
  rcases ix.add_cases session row c with ⟨key, hopen, hkey, hok, hcatalog⟩ | hfails
  · have hmap := (Index.isClosed_eq_false.mp hopen).2
    refine .inl ⟨key, hkey, hok, ?_⟩
    rw [hcatalog]
    exact h.add ix.map key (by rw [MapHandle.add_of_open hmap])
  · exact .inr hfails

theorem Catalog.Reachable.removeRow (h : Reachable c M) (ix : Index) (session : Session)
    (row : Row) :
    (∃ key, ix.key row = .ok key ∧ (ix.remove session row c).answer = .ok () ∧
        Reachable (ix.remove session row c).catalog
          (Function.update M ix.map.map ((M ix.map.map).erase key))) ∨
      ∃ e, (ix.remove session row c).answer = .error e ∧
        (ix.remove session row c).catalog = c := by
  rcases ix.remove_cases session row c with ⟨key, hkey, hfound, hok, hcatalog⟩ | hfails
  · refine .inl ⟨key, hkey, hok, ?_⟩
    rw [hcatalog]
    exact h.remove ix.map key hfound
  · exact .inr hfails

theorem Catalog.Reachable.truncateIndex (h : Reachable c M) (ix : Index) (session : Session) :
    ((ix.truncate session c).answer = .ok () ∧
        Reachable (ix.truncate session c).catalog (Function.update M ix.map.map 0)) ∨
      ∃ e, (ix.truncate session c).answer = .error e ∧ (ix.truncate session c).catalog = c := by
  rcases ix.truncate_cases session c with ⟨hcleared, hok, hcatalog⟩ | hfails
  · refine .inl ⟨hok, ?_⟩
    rw [hcatalog]
    exact h.clear ix.map hcleared
  · exact .inr hfails

theorem Catalog.Reachable.dropIndex (h : Reachable c M) (ix : Index) (session : Session) :
    Reachable (ix.drop session c).catalog M := by
  rcases ix.drop_catalog session c with hsame | hdrop
  · rw [hsame]
    exact h
  · rw [hdrop]
    exact h.removeMap ix.store ix.map

theorem Catalog.Reachable.closeIndex (h : Reachable c M) (ix : Index) (session : Session) :
    Reachable (ix.close session c).catalog M := by
  rcases ix.close_catalog session c with hsame | hclose
  · rw [hsame]
    exact h
  · rw [hclose]
    exact h.close ix.store

namespace Database

variable {db : Database}

/-- A request that is an operation which either does what the request means to the keys, or fails
and changes nothing. -/
theorem reachable_operate {α : Type} (h : Reachable db.catalog M) {name : String} {ix : Index}
    (hix : db.index? name = some ix) {request : IndexRequest} {op : Operation α}
    {next : α → Database → Reply × Database}
    (hperform : db.performOn name ix request = db.operate op next)
    (hnext : ∀ a db', (next a db').2.catalog = db'.catalog)
    (hop : (∃ a, (op db.catalog).answer = .ok a ∧ Reachable (op db.catalog).catalog
        (Function.update M ix.map.map (request.effect ix (M ix.map.map)))) ∨
      ∃ e, (op db.catalog).answer = .error e ∧ (op db.catalog).catalog = db.catalog) :
    Reachable (db.performOn name ix request).database.catalog
      (db.follow M (.index name request)) := by
  rcases hop with ⟨a, hok, hreachable⟩ | ⟨e, herror, hcatalog⟩
  · rw [follow_of_ok hix (by rw [hperform, operate_of_ok hok]), hperform, catalog_operate hnext]
    exact hreachable
  · rw [follow_of_error hix (by rw [hperform, operate_of_error herror]), hperform,
      catalog_operate hnext, hcatalog]
    exact h

/-- One request to an index leads to a catalog with the contents that follow from the reply. -/
theorem reachable_performOn (h : Reachable db.catalog M) {name : String} {ix : Index}
    (hix : db.index? name = some ix) (request : IndexRequest) :
    Reachable (db.performOn name ix request).database.catalog
      (db.follow M (.index name request)) := by
  cases request with
  | add session row =>
    have hperform : db.performOn name ix (.add session row) =
      db.operate (ix.add session row) fun _ db => (.done, db) := rfl
    refine reachable_operate h hix hperform (fun _ _ => rfl) ?_
    rcases h.addRow ix session row with ⟨key, hkey, hok, hreachable⟩ | hfails
    · refine .inl ⟨(), hok, ?_⟩
      simpa only [IndexRequest.effect, hkey] using hreachable
    · exact .inr hfails
  | put session row table =>
    have hperform : db.performOn name ix (.put session row table) =
      db.operate (ix.add session row) fun _ db =>
        (.done, db.setTable ((db.table table).put row)) := rfl
    refine reachable_operate h hix hperform (fun _ _ => rfl) ?_
    rcases h.addRow ix session row with ⟨key, hkey, hok, hreachable⟩ | hfails
    · refine .inl ⟨(), hok, ?_⟩
      simpa only [IndexRequest.effect, hkey] using hreachable
    · exact .inr hfails
  | remove session row =>
    have hperform : db.performOn name ix (.remove session row) =
      db.operate (ix.remove session row) fun _ db => (.done, db) := rfl
    refine reachable_operate h hix hperform (fun _ _ => rfl) ?_
    rcases h.removeRow ix session row with ⟨key, hkey, hok, hreachable⟩ | hfails
    · refine .inl ⟨(), hok, ?_⟩
      simpa only [IndexRequest.effect, hkey] using hreachable
    · exact .inr hfails
  | truncate session =>
    have hperform : db.performOn name ix (.truncate session) =
      db.operate (ix.truncate session) fun _ db => (.done, db) := rfl
    refine reachable_operate h hix hperform (fun _ _ => rfl) ?_
    rcases h.truncateIndex ix session with ⟨hok, hreachable⟩ | hfails
    · exact .inl ⟨(), hok, hreachable⟩
    · exact .inr hfails
  -- From here on, requests that mean nothing to the keys.
  | close session =>
    rw [follow_of_neutral hix fun _ => rfl, performOn, catalog_operate fun _ _ => rfl]
    exact h.closeIndex ix session
  | drop session =>
    rw [follow_of_neutral hix fun _ => rfl, performOn, catalog_operate fun _ _ => rfl]
    exact h.dropIndex ix session
  | markRebuilt =>
    rw [follow_of_neutral hix fun _ => rfl, performOn, catalog_operate fun _ _ => rfl,
      Index.markRebuilt_eq]
    exact h
  | find session =>
    rw [follow_of_neutral hix fun _ => rfl, performOn, catalog_operate fun _ _ => rfl,
      Index.find_catalog]
    exact h
  | search session row =>
    rw [follow_of_neutral hix fun _ => rfl, performOn, catalog_operate fun _ _ => rfl,
      Index.search_catalog]
    exact h
  | cursor session row =>
    rw [follow_of_neutral hix fun _ => rfl, performOn, catalog_operate fun _ _ => rfl,
      Index.search_catalog]
    exact h
  | key row =>
    rw [follow_of_neutral hix fun _ => rfl, performOn, catalog_operate fun _ _ => rfl]
    cases ix.key row <;> exact h
  | setCost cost =>
    rw [follow_of_neutral hix fun _ => rfl]
    exact h
  | cost masks =>
    rw [follow_of_neutral hix fun _ => rfl]
    exact h
  | info =>
    rw [follow_of_neutral hix fun _ => rfl]
    exact h
  | describe =>
    rw [follow_of_neutral hix fun _ => rfl]
    exact h

/-- One request leads to a catalog with the contents that follow from its reply. -/
theorem reachable_perform (h : Reachable db.catalog M) (request : Request) :
    Reachable (db.perform request).database.catalog (db.follow M request) := by
  cases request with
  | openIndex name session declaration table =>
    have hopen := h.openIndex session declaration table
    rw [perform, catalog_operate fun _ _ => rfl]
    exact hopen
  | index name request =>
    cases hix : db.index? name with
    | some ix =>
      rw [perform_index hix]
      exact reachable_performOn h hix request
    | none =>
      have hfollow : db.follow M (.index name request) = M := by simp only [follow, hix]
      rw [hfollow]
      simp only [perform, hix]
      exact h
  | insertRow table row => exact h
  | deleteRow table row => exact h
  | mapNames storage => exact h
  | containsMap storage name => exact h

/-! ### A history -/

theorem reachable_afterFrom (h : Reachable db.catalog M) (requests : List Request) :
    Reachable (db.after requests).catalog (db.contentsFrom M requests) := by
  induction requests generalizing db M with
  | nil => exact h
  | cons request requests ih => exact ih (reachable_perform h request)

/-- **A history leads to a catalog with the contents that follow from its replies.** -/
theorem reachable_after (requests : List Request) :
    Reachable (empty.after requests).catalog (contents requests) :=
  reachable_afterFrom .empty requests

end Database

/-! ### A session and an index to try things with -/

def Session.sample : Session := ⟨1, false, some "main"⟩

/-- An index that is created over the column of number 1. -/
def Declaration.sample : Declaration :=
  ⟨3, "PLACES", [⟨⟨1, "GEOM", .geometry⟩, .ascending⟩], false, true, true⟩

/-- What opening it gives, if the given store is the next one and its map is the first. -/
def Index.sample (store : StoreId) : Index :=
  ⟨3, "PLACES", ⟨⟨1, "GEOM", .geometry⟩, .ascending⟩, "T", store, ⟨"RTREE_3", ⟨0⟩, store⟩, .spatial,
    true, false⟩

/-! ### What an index shows of its contents -/

namespace Index

variable {ix : Index} {session : Session} {row : Row} {key : Key}

theorem isClosed_setEntries (map : MapId) (e : Entries) :
    ix.isClosed (c.setEntries map e) = ix.isClosed c := by
  rw [isClosed, isClosed, Catalog.isClosed, Catalog.isClosed, isRemoved_setEntries]
  rfl

theorem rowCount_eq (h : Reachable c M) (ix : Index) :
    ix.rowCount c = UInt64.ofNat (M ix.map.map).card :=
  (h.holds.entries ix.map.map).size

/-- A scan of an open index yields its keys in ascending order. -/
theorem find_eq (h : Reachable c M) (hopen : ix.isClosed c = false)
    (hfits : ∀ key, (M ix.map.map).count key < UInt32.size) (session : Session) :
    ∃ keys, (ix.find session c).answer = .ok (.start keys ix.table session.id) ∧
      (keys : Multiset Key) = M ix.map.map ∧ keys.Pairwise fun a b => a.order b ≠ .gt := by
  have hentries := h.holds.entries ix.map.map
  refine ⟨(c.entries ix.map.map).toList, ?_, hentries.toList_eq hfits,
    Entries.pairwise_toList hentries.sorted⟩
  rw [find_of_open hopen]

/-- An open index removes a row exactly if it contains its key. -/
theorem remove_ok_iff (h : Reachable c M) (hopen : ix.isClosed c = false)
    (hfits : (M ix.map.map).count key < UInt32.size) (hkey : ix.key row = .ok key) :
    (ix.remove session row c).answer = .ok () ↔ key ∈ M ix.map.map := by
  rw [← (h.holds.entries ix.map.map).erase?_isSome hfits]
  cases herase : (c.entries ix.map.map).erase? key with
  | some left => simp [remove_of_some hopen hkey herase]
  | none => simp [remove_of_none hopen hkey herase]

end Index

namespace Database

/-- **Indexes keep the keys that they were given.**  After any history, and as long as no key of a
map occurs more often than a word of 32 bits can count, every handle on the map counts the keys that
the replies of the history amount to.  An open one finds just these, as often as they occur and in
ascending order, and removes a row that has a key if and only if the key is among them; it never
refuses to add such a row, nor to be truncated.  The number of keys is a word of 64 bits. -/
theorem history_refines (requests : List Request) (ix : Index)
    (hfits : ∀ key, (contents requests ix.map.map).count key < UInt32.size) :
    let c := (empty.after requests).catalog
    let M := contents requests ix.map.map
    ix.rowCount c = UInt64.ofNat M.card ∧
      (ix.isClosed c = false →
        (∀ session, ∃ keys, (ix.find session c).answer = .ok (.start keys ix.table session.id) ∧
            (keys : Multiset Key) = M ∧ keys.Pairwise fun a b => a.order b ≠ .gt) ∧
          (∀ session row key, ix.key row = .ok key →
            (ix.add session row c).answer = .ok () ∧
              ((ix.remove session row c).answer = .ok () ↔ key ∈ M)) ∧
          ∀ session, (ix.truncate session c).answer = .ok ()) := by
  intro c M
  have hreachable := reachable_after requests
  refine ⟨Index.rowCount_eq hreachable ix, fun hopen => ⟨fun session => ?_, ?_, ?_⟩⟩
  · exact Index.find_eq hreachable hopen hfits session
  · intro session row key hkey
    refine ⟨?_, Index.remove_ok_iff hreachable hopen (hfits key) hkey⟩
    rw [Index.add_of_open hopen hkey]
  · intro session
    rw [Index.truncate_of_open hopen]

/-- A row put in twice and another one once; of the first, one occurrence is removed again, and of a
row that was never put in, none. -/
def shortHistory : List Request :=
  let request (r : IndexRequest) : Request := .index "i" r
  [.openIndex "i" .sample .sample "T", request (.add .sample ⟨1, []⟩),
    request (.add .sample ⟨1, []⟩), request (.add .sample ⟨2, []⟩),
    request (.remove .sample ⟨1, []⟩), request (.remove .sample ⟨3, []⟩)]

theorem history_refines_shortHistory :
    (empty.after shortHistory).index? "i" = some (.sample ⟨0⟩) ∧
      (∀ key, (contents shortHistory ⟨0⟩).count key < UInt32.size) ∧
      (Index.sample ⟨0⟩).rowCount (empty.after shortHistory).catalog = 2 ∧
      ∃ keys, ((Index.sample ⟨0⟩).find .sample (empty.after shortHistory).catalog).answer =
          .ok (.start keys "T" 1) ∧
        (keys : Multiset Key) = {⟨1, none⟩, ⟨2, none⟩} := by
  have hcontents : contents shortHistory ⟨0⟩ = {⟨1, none⟩, ⟨2, none⟩} := by decide
  have hfits : ∀ key, (contents shortHistory ⟨0⟩).count key < UInt32.size := by
    intro key
    rw [hcontents]
    exact Nat.lt_of_le_of_lt (Multiset.count_le_card _ _) (by decide)
  obtain ⟨hcount, hscan⟩ := history_refines shortHistory (.sample ⟨0⟩) hfits
  obtain ⟨keys, hkeys, hmultiset, -⟩ := (hscan (by decide)).1 .sample
  refine ⟨rfl, hfits, ?_, keys, hkeys, hmultiset.trans hcontents⟩
  rw [hcount]
  exact congrArg (fun M => UInt64.ofNat (Multiset.card M)) hcontents

end Database

end GeometryIndex

import GeometryIndex.Proofs.Index.Isolation

/-!
# Indexes — noninterference

A history may work with any number of indexes over any storages.  Leaving out the requests to all
but the persistent indexes of one id over one storage, and the openings that fail
(`Database.without`), makes no difference to what is seen of these (`Database.observations`).

* `Database.Mirrors.perform`: one request, whether it is left out or not, keeps the databases of the
  two histories alike;
* `Database.indexes_do_not_interfere`: hence for histories; and a private index leaves every storage
  as it is.
-/

namespace GeometryIndex

/-! ### Whose requests -/

namespace Database

/-- The index that a request is made to, or that it opens. -/
def subject? (db : Database) : Request → Option Index
  | .openIndex _ session d table => (session.openIndex d table db.catalog).answer.toOption
  | .index name _ => db.index? name
  | _ => none

/-- Whether a request is made to a persistent index of an id over a storage, or opens one. -/
def concerns (S : String) (id : Int32) (db : Database) (request : Request) : Bool :=
  (db.subject? request).any fun ix => ix.isOf S id (db.perform request).database.catalog

/-- Whether a request is made to another index, opens another one, or fails to open one. -/
def isForeign (S : String) (id : Int32) (db : Database) (request : Request) : Bool :=
  !db.concerns S id request &&
    match request with
    | .openIndex .. => true
    | .index name _ => (db.index? name).isSome
    | _ => false

/-- A history without what is foreign to the persistent indexes of an id over a storage. -/
def without (S : String) (id : Int32) (db : Database) : List Request → List Request
  | [] => []
  | request :: requests =>
    let rest := without S id (db.perform request).database requests
    if db.isForeign S id request then rest else request :: rest

end Database

/-! ### What is seen of a request -/

/-- The session and the row of a search. -/
def IndexRequest.search? : IndexRequest → Option (Session × Option Row)
  | .find session => some (session, none)
  | .search session row | .cursor session row => some (session, row)
  | _ => none

/-- The keys of the cursor that a request to an index opens. -/
def Index.found? (ix : Index) (request : IndexRequest) (c : Catalog) : Option (List Key) :=
  match request.search? with
  | some (session, row) => (ix.search session row c).answer.toOption.map Cursor.rest
  | none => none

/-- What is seen of a request to an index. -/
structure Observation where
  reply : Except Refusal Reply
  log : List LogEntry
  /-- The keys of the cursor, if one was opened. -/
  found : Option (List Key)
  /-- The number of keys, whether the index is closed, and whether it has to be rebuilt. -/
  state : Option (UInt64 × Bool × Bool)

namespace Database

/-- The keys of the cursor that a request opens. -/
def found? (db : Database) : Request → Option (List Key)
  | .index name request => (db.index? name).bind fun ix => ix.found? request db.catalog
  | _ => none

def observe (db : Database) (request : Request) : Observation where
  reply := (db.perform request).reply.map Reply.seen
  log := (db.perform request).log
  found := db.found? request
  state :=
    match request with
    | .openIndex name .. | .index name _ => (db.perform request).database.state? name
    | _ => none

/-- What is seen of the persistent indexes of an id over a storage in the course of a history. -/
def observations (S : String) (id : Int32) (db : Database) :
    List Request → List (Request × Observation)
  | [] => []
  | request :: requests =>
    let rest := observations S id (db.perform request).database requests
    if db.concerns S id request then (request, db.observe request) :: rest else rest

variable {S : String} {id : Int32} {f : Embedding} {part whole db : Database} {name : String}
  {ix ix' : Index} {storage : Storage} {session : Session} {d : Declaration} {table : String}

/-! ### Requests -/

theorem database_of_open (hok : (session.openIndex d table db.catalog).answer = .ok ix)
    (name : String) :
    (db.perform (.openIndex name session d table)).database =
      ({ db with catalog := (session.openIndex d table db.catalog).catalog } :
        Database).setIndex name ix := by
  rw [perform, operate_of_ok hok]

theorem database_of_failure {e : Error}
    (herror : (session.openIndex d table db.catalog).answer = .error e) (name : String) :
    (db.perform (.openIndex name session d table)).database = db := by
  rw [perform, operate_of_error herror, Session.catalog_of_openIndex herror]

theorem concerns_index (hix : db.index? name = some ix)
    (hopened : db.catalog.storageOf? ix.store = some storage) (request : IndexRequest) :
    db.concerns S id (.index name request) = ix.isOf S id db.catalog := by
  have htouches := touches_performOn name hopened request
  rw [concerns, subject?, hix, Option.any_some, perform_index hix]
  exact Index.isOf_congr rfl rfl (htouches.storageOf?_eq _)

theorem concerns_open (hok : (session.openIndex d table db.catalog).answer = .ok ix) :
    db.concerns S id (.openIndex name session d table) =
      ix.isOf S id (session.openIndex d table db.catalog).catalog := by
  rw [concerns, subject?, hok, database_of_open hok]
  rfl

theorem concerns_of_unbound (hnone : db.index? name = none) (request : IndexRequest) :
    db.concerns S id (.index name request) = false := by
  rw [concerns, subject?, hnone]
  rfl

theorem isForeign_open :
    db.isForeign S id (.openIndex name session d table) =
      !db.concerns S id (.openIndex name session d table) :=
  Bool.and_true _

theorem isForeign_index (hix : db.index? name = some ix) (request : IndexRequest) :
    db.isForeign S id (.index name request) = !db.concerns S id (.index name request) := by
  rw [isForeign, hix]
  exact Bool.and_true _

theorem isForeign_of_unbound (hnone : db.index? name = none) (request : IndexRequest) :
    db.isForeign S id (.index name request) = false := by
  rw [isForeign, hnone]
  exact Bool.and_false _

/-- The keys of the cursors that are opened over indexes that correspond. -/
theorem Mirrors.found?_eq (h : Mirrors S id f part whole) (hpart : part.index? name = some ix)
    (hwhole : whole.index? name = some ix')
    (hcorresponds : Index.Corresponds f (Index.mapNameOf id) id ix ix') (request : IndexRequest) :
    part.found? (.index name request) = whole.found? (.index name request) := by
  obtain ⟨rfl, store, map, rfl, hf⟩ := hcorresponds
  rw [found?, found?, hpart, hwhole, Option.bind_some, Option.bind_some, Index.found?, Index.found?]
  cases request.search? with
  | none => rfl
  | some search =>
    obtain ⟨session, row⟩ := search
    have hsearch := (Index.search_alike hf session row _ _ h.catalog).answer.toOption_eq
    exact congrArg (Option.map Cursor.rest) hsearch

/-- A request to an index of the id, which is made to both. -/
theorem Mirrors.perform_index (h : Mirrors S id f part whole) (htied : whole.Tied)
    (hwhole : whole.index? name = some ix') (hown : ix'.isOf S id whole.catalog = true)
    (request : IndexRequest) :
    part.concerns S id (.index name request) = true ∧
      part.observe (.index name request) = whole.observe (.index name request) ∧
      Mirrors S id f (part.perform (.index name request)).database
        (whole.perform (.index name request)).database := by
  obtain ⟨ix, hpart, hcorresponds⟩ := h.own name ix' hwhole hown
  have hown' := (h.isOf_of_corresponds hcorresponds).1
  obtain ⟨hreply, hlog, hdb⟩ := h.perform_own htied hcorresponds name request
  -- The index is still there, and still of the id.
  obtain ⟨ix'', hid, hlink, hindexes⟩ := index?_performOn hwhole request
  have htouches := touches_performOn name (Index.isOf_iff.mp hown).2 request
  have hstill : ix''.isOf S id (whole.performOn name ix' request).database.catalog = true :=
    (Index.isOf_congr hid hlink (htouches.storageOf?_eq _)).trans hown
  have hstate := hdb.state?_eq ((hindexes name).trans (if_pos rfl)) hstill
  refine ⟨?_, ?_, ?_⟩
  · rw [concerns_index hpart (Index.isOf_iff.mp hown').2 request, hown']
  · rw [observe, observe, h.found?_eq hpart hwhole hcorresponds request,
      Database.perform_index hpart, Database.perform_index hwhole, hreply, hlog]
    exact congrArg (Observation.mk _ _ _) hstate
  · rw [Database.perform_index hpart, Database.perform_index hwhole]
    exact hdb

/-- An opening of an index of the id, which is made to both. -/
theorem Mirrors.perform_open (h : Mirrors S id f part whole) (htied : whole.Tied)
    (hwell : whole.catalog.WellFormed)
    (hok : (session.openIndex d table whole.catalog).answer = .ok ix')
    (hown : ix'.isOf S id (session.openIndex d table whole.catalog).catalog = true) :
    part.concerns S id (.openIndex name session d table) = true ∧
      part.observe (.openIndex name session d table) =
        whole.observe (.openIndex name session d table) ∧
      ∃ g, Mirrors S id g (part.perform (.openIndex name session d table)).database
        (whole.perform (.openIndex name session d table)).database := by
  obtain ⟨g, ix, hpart, hown', hreply, hlog, hdb⟩ := h.open_own htied hwell hok hown name
  have hopened := database_of_open hok name
  have hbound : (whole.perform (.openIndex name session d table)).database.index? name =
      some ix' := by
    rw [hopened, index?_setIndex, if_pos rfl]
  have hstate := hdb.state?_eq hbound (by rw [hopened]; exact hown)
  refine ⟨?_, ?_, g, hdb⟩
  · rw [concerns_open hpart, hown']
  · rw [observe, observe, hreply, hlog]
    exact congrArg (Observation.mk _ _ _) hstate

/-- **One request.**  It is either left out, and then not noticed, or made to both, and then it
looks the same if it concerns the indexes of the id. -/
theorem Mirrors.perform (h : Mirrors S id f part whole) (htied : whole.Tied)
    (hwell : whole.catalog.WellFormed) (request : Request) :
    (whole.isForeign S id request = true ∧ whole.concerns S id request = false ∧
        Mirrors S id f part (whole.perform request).database) ∨
      (whole.isForeign S id request = false ∧
        part.concerns S id request = whole.concerns S id request ∧
        (whole.concerns S id request = true → part.observe request = whole.observe request) ∧
        ∃ g, Mirrors S id g (part.perform request).database (whole.perform request).database) := by
  cases request with
  | openIndex name session d table =>
    rw [isForeign_open]
    cases hanswer : (session.openIndex d table whole.catalog).answer with
    | error e =>
      have hconcerns : whole.concerns S id (.openIndex name session d table) = false := by
        rw [concerns, subject?, hanswer]
        rfl
      refine .inl ⟨by rw [hconcerns, Bool.not_false], hconcerns, ?_⟩
      rw [database_of_failure hanswer]
      exact h
    | ok ix' =>
      have hconcerns : whole.concerns S id (.openIndex name session d table) =
          ix'.isOf S id (session.openIndex d table whole.catalog).catalog := concerns_open hanswer
      rw [hconcerns]
      cases hown : ix'.isOf S id (session.openIndex d table whole.catalog).catalog with
      | false =>
        obtain ⟨storage, hstorage, hopens⟩ := Session.openIndex_opens hanswer
        refine .inl ⟨rfl, rfl, ?_⟩
        rw [database_of_open hanswer]
        exact h.open_foreign htied hopens (hopens.tied hwell hstorage) hown name
      | true =>
        obtain ⟨hpart, hobserve, hdb⟩ := h.perform_open htied hwell hanswer hown
        exact .inr ⟨rfl, hpart, fun _ => hobserve, hdb⟩
  | index name request =>
    cases hix : whole.index? name with
    | none =>
      have hpart := h.unbound name hix
      refine .inr ⟨isForeign_of_unbound hix request, ?_, ?_, f, ?_⟩
      · rw [concerns_of_unbound hpart, concerns_of_unbound hix]
      · rw [concerns_of_unbound hix]
        exact fun hnone => absurd hnone Bool.false_ne_true
      · simp only [Database.perform, hpart, hix]
        exact h
    | some ix' =>
      obtain ⟨storage, htied'⟩ := htied name ix' hix
      have hconcerns : whole.concerns S id (.index name request) = ix'.isOf S id whole.catalog :=
        concerns_index hix htied'.opened request
      rw [isForeign_index hix, hconcerns]
      cases hown : ix'.isOf S id whole.catalog with
      | false =>
        refine .inl ⟨rfl, rfl, ?_⟩
        rw [Database.perform_index hix]
        exact h.perform_foreign hix htied' hown request
      | true =>
        obtain ⟨hpart, hobserve, hdb⟩ := h.perform_index htied hix hown request
        exact .inr ⟨rfl, hpart, fun _ => hobserve, f, hdb⟩
  | insertRow | deleteRow =>
    exact .inr ⟨rfl, rfl, fun hnone => absurd hnone Bool.false_ne_true, f, h.setTable _ _⟩
  | mapNames | containsMap =>
    exact .inr ⟨rfl, rfl, fun hnone => absurd hnone Bool.false_ne_true, f, h⟩

/-- **A history.** -/
theorem Mirrors.observations_eq {M : Contents} (h : Mirrors S id f part whole)
    (htied : whole.Tied) (hreachable : Catalog.Reachable whole.catalog M)
    (requests : List Request) :
    part.observations S id (whole.without S id requests) = whole.observations S id requests := by
  induction requests generalizing f part whole M with
  | nil => rfl
  | cons request requests ih =>
    have htied' := tied_perform htied hreachable.wellFormed request
    have hreachable' := reachable_perform hreachable request
    rcases h.perform htied hreachable.wellFormed request with
      ⟨hforeign, hconcerns, hdb⟩ | ⟨hforeign, hconcerns, hobserve, g, hdb⟩
    · simp only [without, observations, hforeign, hconcerns, if_true, Bool.false_eq_true, if_false]
      exact ih hdb htied' hreachable'
    · simp only [without, hforeign, Bool.false_eq_true, if_false, observations, hconcerns]
      rw [ih hdb htied' hreachable']
      split
      · next howned => rw [hobserve howned]
      · rfl

/-! ### Private indexes -/

/-- A request to an index that is over no storage but its own. -/
theorem sameIn_of_private (htied : db.Tied) (hix : db.index? name = some ix)
    (hprivate : ∀ T, db.catalog.storageOf? ix.store ≠ some (.named T)) (request : IndexRequest)
    (T : String) :
    db.catalog.SameIn (.named T) (db.perform (.index name request)).database.catalog := by
  obtain ⟨storage, htied'⟩ := htied name ix hix
  rw [Database.perform_index hix]
  refine (touches_performOn name htied'.opened request).sameIn htied' ?_
  rintro rfl
  exact hprivate T htied'.opened

/-- An index that is not opened anew keeps its id, and its store over its storage. -/
theorem index?_perform (hix : db.index? name = some ix) (htied : db.Tied) {request : Request}
    (hother : ∀ session d table, request ≠ .openIndex name session d table) :
    ∃ ix', (db.perform request).database.index? name = some ix' ∧ ix'.id = ix.id ∧
      (db.perform request).database.catalog.storageOf? ix'.store =
        db.catalog.storageOf? ix.store := by
  obtain ⟨storage, htied'⟩ := htied name ix hix
  cases request with
  | openIndex name' session d table =>
    have hne : name ≠ name' := fun heq => hother session d table (heq ▸ rfl)
    cases hanswer : (session.openIndex d table db.catalog).answer with
    | error e =>
      rw [database_of_failure hanswer]
      exact ⟨ix, hix, rfl, rfl⟩
    | ok opened =>
      obtain ⟨_, -, hopens⟩ := Session.openIndex_opens hanswer
      have hopened := htied'.opened
      rw [database_of_open hanswer, index?_setIndex, if_neg hne]
      exact ⟨ix, hix, rfl, (hopens.storageOf?_eq hopened).trans hopened.symm⟩
  | index name' request =>
    cases hix' : db.index? name' with
    | none =>
      simp only [perform, hix']
      exact ⟨ix, hix, rfl, rfl⟩
    | some touched =>
      obtain ⟨storage', htied''⟩ := htied name' touched hix'
      have htouches := touches_performOn name' htied''.opened request
      obtain ⟨after, hid, hlink, hindexes⟩ := index?_performOn hix' request
      rw [Database.perform_index hix', hindexes]
      by_cases heq : name = name'
      · subst heq
        obtain rfl := Option.some.inj (hix'.symm.trans hix)
        rw [if_pos rfl]
        refine ⟨after, rfl, hid, ?_⟩
        rw [(Prod.mk.inj hlink).1]
        exact htouches.storageOf?_eq _
      · rw [if_neg heq]
        exact ⟨ix, hix, rfl, htouches.storageOf?_eq _⟩
  | insertRow | deleteRow | mapNames | containsMap => exact ⟨ix, hix, rfl, rfl⟩

/-- **Indexes do not interfere.**  Leave out of a history all that does not concern the persistent
indexes of one id over one storage: what is seen of these is the same.  Whether an index is one of
them is decided when it is opened, by its declaration and the storage of its session.  An opening
that fails changes nothing at all, and what is done by way of an index that is not persistent leaves
every storage as it is. -/
theorem indexes_do_not_interfere (S : String) (id : Int32) (requests : List Request) :
    let db := empty.after requests
    empty.observations S id (empty.without S id requests) = empty.observations S id requests ∧
      (∀ name session d table e, (session.openIndex d table db.catalog).answer = .error e →
        (db.perform (.openIndex name session d table)).database = db) ∧
      (∀ name session d table ix, (session.openIndex d table db.catalog).answer = .ok ix →
        let later := (db.perform (.openIndex name session d table)).database
        later.index? name = some ix ∧ ix.id = d.id ∧
          (∀ T, later.catalog.storageOf? ix.store = some (.named T) ↔
            d.persistent = true ∧ session.storage = some T) ∧
          (d.persistent = false → ∀ T, db.catalog.SameIn (.named T) later.catalog)) ∧
      (∀ name ix request, db.index? name = some ix →
        (∀ session d table, request ≠ .openIndex name session d table) →
        let later := (db.perform request).database
        ∃ ix', later.index? name = some ix' ∧ ix'.id = ix.id ∧
          later.catalog.storageOf? ix'.store = db.catalog.storageOf? ix.store) ∧
      ∀ name ix request, db.index? name = some ix →
        (∀ T, db.catalog.storageOf? ix.store ≠ some (.named T)) →
        ∀ T, db.catalog.SameIn (.named T) (db.perform (.index name request)).database.catalog := by
  intro db
  have htied : db.Tied := tied_after requests
  have hwell : db.catalog.WellFormed := (reachable_after requests).wellFormed
  refine ⟨(mirrors_empty S id).observations_eq tied_empty .empty requests, ?_, ?_, ?_, ?_⟩
  · exact fun name _ _ _ _ herror => database_of_failure herror name
  · intro name session d table ix hok later
    obtain ⟨storage, hstorage, hopens⟩ := Session.openIndex_opens hok
    have hlater : later = _ := database_of_open hok name
    have hopened : later.catalog.storageOf? ix.store = some storage := by
      rw [hlater]
      exact (hopens.tied hwell hstorage).opened
    refine ⟨?_, hopens.id, fun T => ?_, fun hpersistent T => ?_⟩
    · rw [hlater, index?_setIndex, if_pos rfl]
    · rw [hopened, ← hstorage]
      exact Session.storageFor_eq_named
    · rw [hlater]
      refine hopens.sameIn ?_
      rintro rfl
      rw [(Session.storageFor_eq_named.mp hstorage).1] at hpersistent
      cases hpersistent
  · exact fun name ix request hix hother => index?_perform hix htied hother
  · exact fun name ix request hix hprivate => sameIn_of_private htied hix hprivate request

/-- Beside an index there are one of another id, one over another storage and a private one.  They
are written to, truncated and dropped; once, the index cannot be opened anew. -/
def interleaved : List Request :=
  let away : Session := { Session.sample with storage := some "away" }
  [.openIndex "own" .sample .sample "T",
    .openIndex "other" .sample { Declaration.sample with id := 30 } "T",
    .openIndex "away" away .sample "T",
    .openIndex "private" .sample { Declaration.sample with persistent := false } "T",
    .index "other" (.add .sample ⟨4, []⟩),
    .index "own" (.add .sample ⟨1, []⟩),
    .openIndex "own" .sample { Declaration.sample with unique := true } "T",
    .index "away" (.put .sample ⟨5, []⟩ "T"),
    .index "private" (.truncate .sample),
    .index "other" (.drop .sample),
    .index "own" (.cursor .sample none)]

theorem indexes_do_not_interfere_interleaved :
    let db := empty.after interleaved
    (empty.without "main" 3 interleaved).length = 3 ∧
      (empty.observations "main" 3 interleaved).map (fun seen => seen.2.found) =
        [none, none, some [⟨1, none⟩]] ∧
      empty.observations "main" 3 (empty.without "main" 3 interleaved) =
        empty.observations "main" 3 interleaved ∧
      ∃ ix, db.index? "private" = some ix ∧
        (∀ T, db.catalog.storageOf? ix.store ≠ some (.named T)) ∧
        ∀ T, db.catalog.SameIn (.named T)
          (db.perform (.index "private" (.drop .sample))).database.catalog := by
  intro db
  obtain ⟨hseen, -, -, -, hprivate⟩ := indexes_do_not_interfere "main" 3 interleaved
  have hbound : (db.index? "private").isSome = true := by decide +kernel
  have hstorage : (db.index? "private").bind (fun ix => db.catalog.storageOf? ix.store) =
      some (.ephemeral 3) := by decide +kernel
  obtain ⟨ix, hix⟩ := Option.isSome_iff_exists.mp hbound
  have hown : ∀ T, db.catalog.storageOf? ix.store ≠ some (.named T) := by
    intro T hnamed
    rw [hix, Option.bind_some, hnamed] at hstorage
    cases hstorage
  exact ⟨by decide +kernel, by decide +kernel, hseen, ix, hix, hown,
    hprivate "private" ix (.drop .sample) hix hown⟩

end Database

end GeometryIndex

import GeometryIndex.Proofs.Index.Workspaces

/-!
# Indexes — what comes of an operation

There are five things to do with an index, its tasks.  Three causes can stand in the way of one:
the index was closed, the row of the task has no key, or the map behind the index was removed; and
only a row that is there can be removed.  `Index.verdict` looks at the causes in this order.

* `Index.error?_work`: a task fails as the verdict says, and succeeds if the verdict is silent;
* `Index.work_atomic`: a task that fails changes nothing, and so do the other operations
  (`Operation.Atomic`).
-/

namespace GeometryIndex

/-- What an operation failed with, if it did. -/
def Effect.error? {α : Type} (effect : Effect α) : Option Error :=
  match effect.answer with
  | .ok _ => none
  | .error e => some e

namespace Operation

variable {α β : Type} {c c' : Catalog} {log : List LogEntry}

theorem error?_eq_some {effect : Effect α} {e : Error} :
    effect.error? = some e ↔ effect.answer = .error e := by
  rw [Effect.error?]
  cases effect.answer <;> simp

theorem error?_eq_none {effect : Effect α} :
    effect.error? = none ↔ ∃ a, effect.answer = .ok a := by
  rw [Effect.error?]
  cases effect.answer <;> simp

theorem error?_bind_of_ok {first : Operation α} {a : α} (h : first c = ⟨.ok a, c', log⟩)
    (second : α → Operation β) : ((first >>= second) c).error? = (second a c').error? := by
  rw [bind_of_ok h]
  rfl

theorem error?_bind_of_error {first : Operation α} {e : Error} (h : first c = ⟨.error e, c', log⟩)
    (second : α → Operation β) : ((first >>= second) c).error? = some e := by
  rw [bind_of_error h]
  rfl

theorem error?_bind_pure (op : Operation α) (f : α → β) :
    ((op >>= fun a => pure (f a)) c).error? = (op c).error? := by
  show (andThen op (fun a => pure (f a)) c).error? = _
  cases hanswer : (op c).answer with
  | ok a => rw [andThen_of_ok hanswer, Effect.error?, Effect.error?, hanswer]; rfl
  | error e => rw [andThen_of_error hanswer, Effect.error?, Effect.error?, hanswer]

theorem exists_of_bind_pure_ok {op : Operation α} {f : α → β} {b : β}
    (h : ((op >>= fun a => pure (f a)) c).answer = .ok b) : ∃ a, (op c).answer = .ok a := by
  rw [← error?_eq_none, ← error?_bind_pure op f, error?_eq_none]
  exact ⟨b, h⟩

theorem catalog_bind_pure (op : Operation α) (f : α → β) :
    ((op >>= fun a => pure (f a)) c).catalog = (op c).catalog := by
  show (andThen op (fun a => pure (f a)) c).catalog = _
  cases hanswer : (op c).answer with
  | ok a => rw [andThen_of_ok hanswer]; rfl
  | error e => rw [andThen_of_error hanswer]

/-- An operation that changes nothing if it fails. -/
def Atomic (op : Operation α) : Prop := ∀ c e, (op c).error? = some e → (op c).catalog = c

theorem atomic_of_cases {op : Operation α}
    (h : ∀ c, (∃ a, (op c).answer = .ok a) ∨ (op c).catalog = c) : op.Atomic := by
  intro c e herror
  rcases h c with ⟨a, hok⟩ | hsame
  · rw [error?_eq_some.mp herror] at hok
    cases hok
  · exact hsame

theorem Atomic.bind_pure {op : Operation α} (h : op.Atomic) (f : α → β) :
    (op >>= fun a => pure (f a)).Atomic := by
  intro c e herror
  rw [error?_bind_pure] at herror
  rw [catalog_bind_pure, h c e herror]

end Operation

open Operation (error?_bind_of_ok error?_bind_of_error error?_bind_pure catalog_bind_pure
  atomic_of_cases)

/-! ### Operations that change nothing if they fail -/

namespace MapHandle

variable (handle : MapHandle) (key : Key)

theorem add_atomic : (handle.add key).Atomic := atomic_of_cases fun c => by
  cases hclosed : c.isClosed handle with
  | true => exact .inr (by rw [add_of_closed hclosed])
  | false => exact .inl ⟨(), by rw [add_of_open hclosed]⟩

theorem remove_atomic : (handle.remove key).Atomic := atomic_of_cases fun c => by
  cases hclosed : c.isClosed handle with
  | true => exact .inr (by rw [remove_of_closed hclosed])
  | false =>
    cases herase : (c.entries handle.map).erase? key with
    | some left => exact .inl ⟨true, by rw [remove_of_some hclosed herase]⟩
    | none => exact .inl ⟨false, by rw [remove_of_none hclosed herase]⟩

theorem clear_atomic : handle.clear.Atomic := atomic_of_cases fun c => by
  cases hclosed : c.isClosed handle with
  | true => exact .inr (by rw [clear_of_closed hclosed])
  | false => exact .inl ⟨(), by rw [clear_of_open hclosed]⟩

end MapHandle

namespace StoreId

variable (store : StoreId)

theorem openBeside_atomic : (store.storage >>= Storage.openStore).Atomic :=
  atomic_of_cases fun c => by
    cases hs : c.stores[store.number]? with
    | none => exact .inr (by rw [openBeside_of_none hs])
    | some s => exact .inl ⟨_, by rw [openBeside_of_some hs]⟩

theorem openMap_atomic (name : String) : (store.openMap name).Atomic :=
  atomic_of_cases fun c => by
    cases hclosed : c.isStoreClosed store with
    | true => exact .inr (by rw [openMap_of_closed hclosed])
    | false =>
      obtain ⟨s, hs, hopen⟩ := Catalog.isStoreClosed_eq_false hclosed
      obtain ⟨map, hmap⟩ := store.openMap_of_open hs hopen name
      exact .inl ⟨_, by rw [hmap]⟩

theorem removeMap_atomic (handle : MapHandle) : (store.removeMap handle).Atomic :=
  atomic_of_cases fun c => by
    cases hclosed : c.isStoreClosed store with
    | true => exact .inr (by rw [removeMap_of_closed hclosed])
    | false =>
      obtain ⟨s, hs, hopen⟩ := Catalog.isStoreClosed_eq_false hclosed
      cases hfind : c.find? s.storage handle.name with
      | some map => exact .inl ⟨(), by rw [removeMap_of_some hs hopen hfind]⟩
      | none => exact .inl ⟨(), by rw [removeMap_of_none hs hopen hfind]⟩

end StoreId

theorem Session.openIndex_atomic (session : Session) (d : Declaration) (table : String) :
    (session.openIndex d table).Atomic := atomic_of_cases fun c => by
  rcases session.openIndex_cases d table c with ⟨_, _, _, _, _, _, _, hok⟩ | ⟨e, _, hcatalog⟩
  · exact .inl ⟨_, hok⟩
  · exact .inr hcatalog

namespace Index

/-- What can be done with the keys of an index. -/
inductive Task
  | add (row : Row)
  | remove (row : Row)
  | find
  /-- The keys that intersect that of a row, or all keys without a row. -/
  | search (row : Option Row)
  | truncate

/-- The row that a task takes, if it takes one. -/
def Task.row? : Task → Option Row
  | .add row => some row
  | .remove row => some row
  | .find => none
  | .search row => row
  | .truncate => none

/-- Does a task, and answers a cursor if it is a scan. -/
def work (ix : Index) (session : Session) : Task → Operation (Option Cursor)
  | .add row => do
    ix.add session row
    return none
  | .remove row => do
    ix.remove session row
    return none
  | .find => do return some (← ix.find session)
  | .search row => do return some (← ix.search session row)
  | .truncate => do
    ix.truncate session
    return none

/-! ### Causes of failure, in order -/

variable (ix : Index)

/-- The index was closed. -/
def closure? : Option Error := if ix.closed then some (.closed (.index ix.name)) else none

/-- A row has no key. -/
def fault? (row : Row) : Option Error :=
  match ix.key row with
  | .ok _ => none
  | .error fault => some (.decode fault)

/-- The map behind the index was removed. -/
def removal? (c : Catalog) : Option Error :=
  if c.isRemoved ix.map.map then some (.closed (.map ix.map.name)) else none

/-- The key of a row that should be removed is not there. -/
def absence? (c : Catalog) : Task → Option Error
  | .remove row =>
    match ix.key row with
    | .ok key =>
      if key ∈ Entries.keys (c.entries ix.map.map).counts then none
      else some (.integrity (.missingRow row.id ix.name))
    | .error _ => none
  | _ => none

/-- **What comes of a task**: the first cause of failure, of closure, decoding, removal of the map
and presence, or success. -/
def verdict (c : Catalog) (task : Task) : Option Error :=
  ix.closure? <|> task.row?.bind ix.fault? <|> ix.removal? c <|> ix.absence? c task

variable {ix : Index} {session : Session} {row : Row} {key : Key} {c : Catalog} {task : Task}
  {α : Type}

theorem verdict_of_closed (h : ix.closed = true) :
    ix.verdict c task = some (.closed (.index ix.name)) := by
  simp [verdict, closure?, h]

/-! ### The verdict comes true -/

theorem error?_requireOpen_bind (next : Unit → Operation α) :
    ((ix.requireOpen >>= next) c).error? = (ix.closure? <|> (next () c).error?) := by
  rw [closure?]
  cases hclosed : ix.closed with
  | true =>
    rw [error?_bind_of_error (requireOpen_of_closed hclosed)]
    rfl
  | false =>
    rw [error?_bind_of_ok (requireOpen_of_open hclosed)]
    rfl

/-- What begins with the key of a row fails on a closed index, and on a row that has no key. -/
theorem error?_openKey_bind (next : Key → Operation α) :
    ((ix.openKey row >>= next) c).error? =
      (ix.closure? <|> ix.fault? row <|>
        (ix.key row).toOption.bind fun key => (next key c).error?) := by
  rw [closure?, fault?]
  cases hclosed : ix.closed with
  | true =>
    have hfails : ix.openKey row c = _ :=
      Operation.bind_of_error (requireOpen_of_closed hclosed) _
    rw [error?_bind_of_error hfails]
    rfl
  | false =>
    cases hkey : ix.key row with
    | ok key =>
      rw [error?_bind_of_ok (openKey_of_open hclosed hkey)]
      rfl
    | error fault =>
      have hfails : ix.openKey row c = ⟨.error (.decode fault), c, []⟩ := by
        rw [openKey, Operation.bind_of_ok (requireOpen_of_open hclosed), hkey]
        rfl
      rw [error?_bind_of_error hfails]
      rfl

variable (hstore : c.isStoreClosed ix.map.store = false)
include hstore

theorem isClosed_eq_isRemoved : c.isClosed ix.map = c.isRemoved ix.map.map := by
  rw [Catalog.isClosed, hstore, Bool.false_or]

/-- What begins with the content of the map, and then succeeds, fails if the map was removed. -/
theorem error?_entries_bind {next : Entries → Operation α}
    (hnext : ∀ e, (next e c).error? = none) :
    ((ix.map.entries >>= next) c).error? = ix.removal? c := by
  rw [removal?]
  cases hremoved : c.isRemoved ix.map.map with
  | true =>
    have hclosed := (isClosed_eq_isRemoved hstore).trans hremoved
    rw [error?_bind_of_error (MapHandle.entries_of_closed hclosed)]
    rfl
  | false =>
    have hopen := (isClosed_eq_isRemoved hstore).trans hremoved
    rw [error?_bind_of_ok (MapHandle.entries_of_open hopen)]
    exact hnext _

theorem error?_add :
    (ix.add session row c).error? = (ix.closure? <|> ix.fault? row <|> ix.removal? c) := by
  have hmap (key : Key) : (ix.map.add key c).error? = ix.removal? c :=
    error?_entries_bind hstore fun _ => rfl
  rw [add, error?_openKey_bind, fault?]
  cases ix.key row with
  | ok key => rw [← hmap key]; rfl
  | error fault => rfl

theorem error?_find : (ix.find session c).error? = (ix.closure? <|> ix.removal? c) := by
  have hkeys : (ix.map.keys c).error? = ix.removal? c :=
    error?_entries_bind hstore fun _ => rfl
  rw [find, error?_requireOpen_bind, error?_bind_pure, hkeys]

theorem error?_search (row : Row) :
    (ix.search session (some row) c).error? =
      (ix.closure? <|> ix.fault? row <|> ix.removal? c) := by
  have hscan (query : Key) : ((do
      return Cursor.start (← ix.map.keysIntersecting query) ix.table session.id :
        Operation Cursor) c).error? = ix.removal? c :=
    (error?_bind_pure _ _).trans (error?_entries_bind hstore fun _ => rfl)
  rw [search, error?_openKey_bind, fault?]
  cases ix.key row with
  | ok query => rw [← hscan query]; rfl
  | error fault => rfl

theorem error?_truncate : (ix.truncate session c).error? = (ix.closure? <|> ix.removal? c) := by
  have hclear : (ix.map.clear c).error? = ix.removal? c :=
    error?_entries_bind hstore fun _ => rfl
  rw [truncate, error?_requireOpen_bind, ← hclear]
  rfl

/-- The map lists a key just if it has an occurrence of it to remove. -/
theorem error?_remove (hsorted : Entries.Sorted (c.entries ix.map.map).counts) :
    (ix.remove session row c).error? =
      (ix.closure? <|> ix.fault? row <|> ix.removal? c <|> ix.absence? c (.remove row)) := by
  rw [remove, error?_openKey_bind, fault?, removal?, absence?]
  cases hkey : ix.key row with
  | error fault => rfl
  | ok key =>
    refine congrArg (fun rest => ix.closure? <|> rest) ?_
    show ((Operation.write _ >>= _) c).error? = _
    rw [error?_bind_of_ok (Operation.write_eq _), ← row_of_key hkey]
    cases hremoved : c.isRemoved ix.map.map with
    | true =>
      have hclosed := (isClosed_eq_isRemoved hstore).trans hremoved
      rw [error?_bind_of_error (MapHandle.remove_of_closed hclosed key)]
      rfl
    | false =>
      have hopen := (isClosed_eq_isRemoved hstore).trans hremoved
      have hlisted : ((c.entries ix.map.map).erase? key).isSome ↔
          key ∈ Entries.keys (c.entries ix.map.map).counts := by
        rw [Entries.erase?, Option.isSome_map]
        exact Entries.eraseCount?_isSome hsorted key
      cases herase : (c.entries ix.map.map).erase? key with
      | some left =>
        rw [herase] at hlisted
        rw [error?_bind_of_ok (MapHandle.remove_of_some hopen herase)]
        simp only [if_pos (hlisted.mp rfl)]
        rfl
      | none =>
        rw [herase] at hlisted
        rw [error?_bind_of_ok (MapHandle.remove_of_none hopen herase)]
        have hnot := fun hmem => Bool.false_ne_true (hlisted.mpr hmem)
        simp only [if_neg hnot]
        rfl

omit hstore

/-- On a closed index no task gets anywhere. -/
theorem error?_work_of_closed (h : ix.closed = true) :
    (ix.work session task c).error? = some (.closed (.index ix.name)) := by
  have hclosure : ix.closure? = some (.closed (.index ix.name)) := if_pos h
  cases task with
  | add row => rw [work, error?_bind_pure, add, error?_openKey_bind, hclosure]; rfl
  | remove row => rw [work, error?_bind_pure, remove, error?_openKey_bind, hclosure]; rfl
  | find => rw [work, error?_bind_pure, find, error?_requireOpen_bind, hclosure]; rfl
  | search row =>
    rw [work, error?_bind_pure]
    cases row with
    | none => rw [search, find, error?_requireOpen_bind, hclosure]; rfl
    | some row => rw [search, error?_openKey_bind, hclosure]; rfl
  | truncate => rw [work, error?_bind_pure, truncate, error?_requireOpen_bind, hclosure]; rfl

/-- **What comes of a task** is its verdict, if the store of an open index is open. -/
theorem error?_work (hstore : ix.closed = false → c.isStoreClosed ix.map.store = false)
    (hsorted : Entries.Sorted (c.entries ix.map.map).counts) (session : Session) (task : Task) :
    (ix.work session task c).error? = ix.verdict c task := by
  cases hclosed : ix.closed with
  | true =>
    rw [error?_work_of_closed hclosed, verdict_of_closed hclosed]
  | false =>
    have hopen := hstore hclosed
    rw [verdict]
    cases task with
    | add row =>
      rw [work, error?_bind_pure, error?_add hopen]
      simp [Task.row?, absence?]
    | remove row =>
      rw [work, error?_bind_pure, error?_remove hopen hsorted]
      rfl
    | find =>
      rw [work, error?_bind_pure, error?_find hopen]
      simp [Task.row?, absence?]
    | search row =>
      rw [work, error?_bind_pure]
      cases row with
      | none =>
        rw [search, error?_find hopen]
        simp [Task.row?, absence?]
      | some row =>
        rw [error?_search hopen]
        simp [Task.row?, absence?]
    | truncate =>
      rw [work, error?_bind_pure, error?_truncate hopen]
      simp [Task.row?, absence?]

/-! ### What a task changes -/

/-- A task changes the content of the map behind its index at most. -/
theorem work_refills (ix : Index) (session : Session) (task : Task) (c : Catalog) :
    c.Refills ix.map.map (ix.work session task c).catalog := by
  cases task with
  | add row =>
    rw [work, catalog_bind_pure]
    rcases ix.add_cases session row c with ⟨key, -, -, -, hcatalog⟩ | ⟨e, -, hcatalog⟩
    · rw [hcatalog]
      exact ix.map.refills_add key c
    · exact .inl hcatalog
  | remove row =>
    rw [work, catalog_bind_pure]
    rcases ix.remove_cases session row c with ⟨key, -, -, -, hcatalog⟩ | ⟨e, -, hcatalog⟩
    · rw [hcatalog]
      exact ix.map.refills_remove key c
    · exact .inl hcatalog
  | find =>
    rw [work, catalog_bind_pure]
    exact .inl (ix.find_catalog session c)
  | search row =>
    rw [work, catalog_bind_pure]
    exact .inl (ix.search_catalog session row c)
  | truncate =>
    rw [work, catalog_bind_pure]
    rcases ix.truncate_cases session c with ⟨-, -, hcatalog⟩ | ⟨e, -, hcatalog⟩
    · rw [hcatalog]
      exact ix.map.refills_clear c
    · exact .inl hcatalog

/-! ### Tasks that fail -/

theorem add_atomic (ix : Index) (session : Session) (row : Row) :
    (ix.add session row).Atomic := atomic_of_cases fun c => by
  rcases ix.add_cases session row c with ⟨_, _, _, hok, _⟩ | ⟨e, _, hcatalog⟩
  · exact .inl ⟨(), hok⟩
  · exact .inr hcatalog

theorem remove_atomic (ix : Index) (session : Session) (row : Row) :
    (ix.remove session row).Atomic := atomic_of_cases fun c => by
  rcases ix.remove_cases session row c with ⟨_, _, _, hok, _⟩ | ⟨e, _, hcatalog⟩
  · exact .inl ⟨(), hok⟩
  · exact .inr hcatalog

theorem truncate_atomic (ix : Index) (session : Session) :
    (ix.truncate session).Atomic := atomic_of_cases fun c => by
  rcases ix.truncate_cases session c with ⟨_, hok, _⟩ | ⟨e, _, hcatalog⟩
  · exact .inl ⟨(), hok⟩
  · exact .inr hcatalog

/-- **A task that fails changes nothing.** -/
theorem work_atomic (ix : Index) (session : Session) (task : Task) :
    (ix.work session task).Atomic := by
  cases task with
  | add row => exact (ix.add_atomic session row).bind_pure fun _ => none
  | remove row => exact (ix.remove_atomic session row).bind_pure fun _ => none
  | find => exact Operation.Atomic.bind_pure (fun c _ _ => ix.find_catalog session c) some
  | search row =>
    exact Operation.Atomic.bind_pure (fun c _ _ => ix.search_catalog session row c) some
  | truncate => exact (ix.truncate_atomic session).bind_pure fun _ => none

theorem close_atomic (ix : Index) (session : Session) :
    (ix.close session).Atomic := atomic_of_cases fun c => by
  obtain ⟨closed, hok, -⟩ := ix.close_answer session c
  exact .inl ⟨closed, hok⟩

theorem drop_atomic (ix : Index) (session : Session) : (ix.drop session).Atomic := by
  intro c e herror
  cases hclosed : c.isClosed ix.map with
  | true => rw [drop_of_closed hclosed]
  | false =>
    rw [drop, error?_bind_of_ok (Operation.look_eq c), if_neg (by simp [hclosed]),
      error?_bind_of_ok (Operation.write_eq _)] at herror
    rw [drop, Operation.bind_of_ok (Operation.look_eq c), if_neg (by simp [hclosed]),
      Operation.bind_of_ok (Operation.write_eq _)]
    exact ix.store.removeMap_atomic ix.map c e herror

end Index

end GeometryIndex

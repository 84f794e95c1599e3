import GeometryIndex.Index.Basic
import GeometryIndex.Proofs.Storage.Effects

/-!
# Indexes — what operations lead to

For each operation on an index: what it does when it succeeds, and that it changes nothing when it
fails.  `add_cases`, `remove_cases` and `truncate_cases` reduce the operations that change keys to
those on the map behind the index; `find_of_open` and `search_of_open` are the scans;
`Session.openIndex_cases` says what opening an index does to the catalog, and
`Session.openIndex_effect` what it writes to the log as well.
-/

namespace GeometryIndex

namespace Operation

variable {α : Type} {ε : Type} {c : Catalog}

theorem ofExcept_ok (cause : ε → Error) (a : α) :
    ofExcept cause (.ok a) c = ⟨.ok a, c, []⟩ := rfl

theorem ofExcept_error (cause : ε → Error) (e : ε) :
    (ofExcept cause (.error e) : Operation α) c = ⟨.error (cause e), c, []⟩ := rfl

theorem look_eq (c : Catalog) : look c = ⟨.ok c, c, []⟩ := rfl

theorem write_eq (entry : LogEntry) : write entry c = ⟨.ok (), c, [entry]⟩ := rfl

theorem writeIf_eq (condition : Bool) (entry : LogEntry) :
    writeIf condition entry c = ⟨.ok (), c, if condition then [entry] else []⟩ := by
  cases condition <;> rfl

end Operation

namespace Index

variable {ix : Index} {session : Session} {row : Row} {key : Key} {c : Catalog}

theorem isClosed_eq_false :
    ix.isClosed c = false ↔ ix.closed = false ∧ c.isClosed ix.map = false :=
  Bool.or_eq_false_iff

theorem row_of_key (h : ix.key row = .ok key) : key.row = row.id := by
  rw [Index.key] at h
  cases henvelope : (row.value ix.column.column.id.toNat).envelope? with
  | error fault =>
    rw [henvelope] at h
    cases h
  | ok envelope =>
    rw [henvelope] at h
    cases h
    rfl

theorem requireOpen_of_open (h : ix.closed = false) : ix.requireOpen c = ⟨.ok (), c, []⟩ :=
  Operation.failIf_of_false h _

theorem requireOpen_of_closed (h : ix.closed = true) :
    ix.requireOpen c = ⟨.error (.closed (.index ix.name)), c, []⟩ :=
  Operation.failIf_of_true h _

theorem openKey_of_open (h : ix.closed = false) (hkey : ix.key row = .ok key) :
    ix.openKey row c = ⟨.ok key, c, []⟩ := by
  rw [openKey, Operation.bind_of_ok (requireOpen_of_open h), hkey]
  rfl

theorem openKey_cases (ix : Index) (row : Row) (c : Catalog) :
    (∃ key, ix.closed = false ∧ ix.key row = .ok key ∧ ix.openKey row c = ⟨.ok key, c, []⟩) ∨
      ∃ e, ix.openKey row c = ⟨.error e, c, []⟩ := by
  cases hclosed : ix.closed with
  | true => exact .inr ⟨_, Operation.bind_of_error (requireOpen_of_closed hclosed) _⟩
  | false =>
    cases hkey : ix.key row with
    | ok key => exact .inl ⟨key, rfl, rfl, openKey_of_open hclosed hkey⟩
    | error fault =>
      refine .inr ⟨.decode fault, ?_⟩
      rw [openKey, Operation.bind_of_ok (requireOpen_of_open hclosed), hkey]
      rfl

/-! ### Adding and removing keys -/

theorem add_of_open (h : ix.isClosed c = false) (hkey : ix.key row = .ok key) :
    ix.add session row c =
      ⟨.ok (), (ix.map.add key c).catalog, [.add ix.name session.id key.row]⟩ := by
  obtain ⟨hindex, hmap⟩ := isClosed_eq_false.mp h
  rw [add, Operation.bind_of_ok (openKey_of_open hindex hkey),
    Operation.bind_of_ok (Operation.write_eq _), MapHandle.add_of_open hmap]
  rfl

/-- **An index adds the key of a row to its map, or fails and changes nothing.** -/
theorem add_cases (ix : Index) (session : Session) (row : Row) (c : Catalog) :
    (∃ key, ix.isClosed c = false ∧ ix.key row = .ok key ∧
        (ix.add session row c).answer = .ok () ∧
        (ix.add session row c).catalog = (ix.map.add key c).catalog) ∨
      ∃ e, (ix.add session row c).answer = .error e ∧ (ix.add session row c).catalog = c := by
  rcases openKey_cases ix row c with ⟨key, hindex, hkey, hopenKey⟩ | ⟨e, hopenKey⟩
  · cases hmap : c.isClosed ix.map with
    | false =>
      have hopen : ix.isClosed c = false := isClosed_eq_false.mpr ⟨hindex, hmap⟩
      exact .inl ⟨key, hopen, hkey, by rw [add_of_open hopen hkey],
        by rw [add_of_open hopen hkey]⟩
    | true =>
      have hfails := MapHandle.add_of_closed hmap key
      refine .inr ⟨.closed (.map ix.map.name), ?_⟩
      rw [add, Operation.bind_of_ok hopenKey, Operation.bind_of_ok (Operation.write_eq _), hfails]
      exact ⟨rfl, rfl⟩
  · refine .inr ⟨e, ?_⟩
    rw [add, Operation.bind_of_error hopenKey]
    exact ⟨rfl, rfl⟩

theorem remove_of_some (h : ix.isClosed c = false) (hkey : ix.key row = .ok key) {left : Entries}
    (herase : (c.entries ix.map.map).erase? key = some left) :
    ix.remove session row c =
      ⟨.ok (), (ix.map.remove key c).catalog, [.remove ix.name session.id key.row]⟩ := by
  obtain ⟨hindex, hmap⟩ := isClosed_eq_false.mp h
  rw [remove, Operation.bind_of_ok (openKey_of_open hindex hkey),
    Operation.bind_of_ok (Operation.write_eq _),
    Operation.bind_of_ok (MapHandle.remove_of_some hmap herase),
    MapHandle.remove_of_some hmap herase]
  rfl

theorem remove_of_none (h : ix.isClosed c = false) (hkey : ix.key row = .ok key)
    (herase : (c.entries ix.map.map).erase? key = none) :
    ix.remove session row c =
      ⟨.error (.integrity (.missingRow key.row ix.name)), c,
        [.remove ix.name session.id key.row, .missingRow ix.name ix.table key.row]⟩ := by
  obtain ⟨hindex, hmap⟩ := isClosed_eq_false.mp h
  rw [remove, Operation.bind_of_ok (openKey_of_open hindex hkey),
    Operation.bind_of_ok (Operation.write_eq _),
    Operation.bind_of_ok (MapHandle.remove_of_none hmap herase)]
  rfl

/-- **An index removes one occurrence of the key of a row from its map, or fails and changes
nothing.** -/
theorem remove_cases (ix : Index) (session : Session) (row : Row) (c : Catalog) :
    (∃ key, ix.key row = .ok key ∧ (ix.map.remove key c).answer = .ok true ∧
        (ix.remove session row c).answer = .ok () ∧
        (ix.remove session row c).catalog = (ix.map.remove key c).catalog) ∨
      ∃ e, (ix.remove session row c).answer = .error e ∧
        (ix.remove session row c).catalog = c := by
  rcases openKey_cases ix row c with ⟨key, hindex, hkey, hopenKey⟩ | ⟨e, hopenKey⟩
  · cases hmap : c.isClosed ix.map with
    | false =>
      have hopen : ix.isClosed c = false := isClosed_eq_false.mpr ⟨hindex, hmap⟩
      cases herase : (c.entries ix.map.map).erase? key with
      | some left =>
        exact .inl ⟨key, hkey, by rw [MapHandle.remove_of_some hmap herase],
          by rw [remove_of_some hopen hkey herase], by rw [remove_of_some hopen hkey herase]⟩
      | none =>
        exact .inr ⟨_, by rw [remove_of_none hopen hkey herase],
          by rw [remove_of_none hopen hkey herase]⟩
    | true =>
      have hfails := MapHandle.remove_of_closed hmap key
      refine .inr ⟨.closed (.map ix.map.name), ?_⟩
      rw [remove, Operation.bind_of_ok hopenKey, Operation.bind_of_ok (Operation.write_eq _),
        Operation.bind_of_error hfails]
      exact ⟨rfl, rfl⟩
  · refine .inr ⟨e, ?_⟩
    rw [remove, Operation.bind_of_error hopenKey]
    exact ⟨rfl, rfl⟩

theorem truncate_of_open (h : ix.isClosed c = false) :
    ix.truncate session c =
      ⟨.ok (), (ix.map.clear c).catalog, [.truncate ix.name session.id]⟩ := by
  obtain ⟨hindex, hmap⟩ := isClosed_eq_false.mp h
  rw [truncate, Operation.bind_of_ok (requireOpen_of_open hindex),
    Operation.bind_of_ok (Operation.write_eq _), MapHandle.clear_of_open hmap]
  rfl

/-- **An index clears its map, or fails and changes nothing.** -/
theorem truncate_cases (ix : Index) (session : Session) (c : Catalog) :
    ((ix.map.clear c).answer = .ok () ∧ (ix.truncate session c).answer = .ok () ∧
        (ix.truncate session c).catalog = (ix.map.clear c).catalog) ∨
      ∃ e, (ix.truncate session c).answer = .error e ∧ (ix.truncate session c).catalog = c := by
  cases hindex : ix.closed with
  | true =>
    refine .inr ⟨.closed (.index ix.name), ?_⟩
    rw [truncate, Operation.bind_of_error (requireOpen_of_closed hindex)]
    exact ⟨rfl, rfl⟩
  | false =>
    cases hmap : c.isClosed ix.map with
    | false =>
      have hopen : ix.isClosed c = false := isClosed_eq_false.mpr ⟨hindex, hmap⟩
      exact .inl ⟨by rw [MapHandle.clear_of_open hmap], by rw [truncate_of_open hopen],
        by rw [truncate_of_open hopen]⟩
    | true =>
      rw [truncate, Operation.bind_of_ok (requireOpen_of_open hindex),
        Operation.bind_of_ok (Operation.write_eq _), MapHandle.clear_of_closed hmap]
      exact .inr ⟨_, rfl, rfl⟩

/-! ### Scans -/

theorem find_of_open (h : ix.isClosed c = false) :
    ix.find session c =
      ⟨.ok (.start (c.entries ix.map.map).toList ix.table session.id), c, []⟩ := by
  obtain ⟨hindex, hmap⟩ := isClosed_eq_false.mp h
  rw [find, Operation.bind_of_ok (requireOpen_of_open hindex),
    Operation.bind_of_ok (MapHandle.keys_of_open hmap)]
  rfl

theorem search_of_open (h : ix.isClosed c = false) (hkey : ix.key row = .ok key) :
    ix.search session (some row) c =
      ⟨.ok (.start ((c.entries ix.map.map).select fun k => k.intersects key) ix.table session.id),
        c, [.search ix.name session.id key.box]⟩ := by
  obtain ⟨hindex, hmap⟩ := isClosed_eq_false.mp h
  rw [search, Operation.bind_of_ok (openKey_of_open hindex hkey),
    Operation.bind_of_ok (Operation.write_eq _),
    Operation.bind_of_ok (MapHandle.keysIntersecting_of_open hmap key)]
  rfl

theorem find_catalog (ix : Index) (session : Session) (c : Catalog) :
    (ix.find session c).catalog = c := by
  cases hindex : ix.closed with
  | true => rw [find, Operation.bind_of_error (requireOpen_of_closed hindex)]
  | false =>
    rw [find, Operation.bind_of_ok (requireOpen_of_open hindex)]
    cases hmap : c.isClosed ix.map with
    | false => rw [Operation.bind_of_ok (MapHandle.keys_of_open hmap)]; rfl
    | true => rw [Operation.bind_of_error (MapHandle.keys_of_closed hmap)]

theorem search_catalog (ix : Index) (session : Session) (row : Option Row) (c : Catalog) :
    (ix.search session row c).catalog = c := by
  cases row with
  | none => exact find_catalog ix session c
  | some row =>
    rcases openKey_cases ix row c with ⟨key, hindex, hkey, hopenKey⟩ | ⟨e, hopenKey⟩
    · rw [search, Operation.bind_of_ok hopenKey, Operation.bind_of_ok (Operation.write_eq _)]
      cases hmap : c.isClosed ix.map with
      | false => rw [Operation.bind_of_ok (MapHandle.keysIntersecting_of_open hmap key)]; rfl
      | true => rw [Operation.bind_of_error (MapHandle.keysIntersecting_of_closed hmap key)]
    · rw [search, Operation.bind_of_error hopenKey]

/-! ### The life of an index -/

/-- An index that is dropped changes nothing, or what removing its map through its store changes. -/
theorem drop_catalog (ix : Index) (session : Session) (c : Catalog) :
    (ix.drop session c).catalog = c ∨
      (ix.drop session c).catalog = (ix.store.removeMap ix.map c).catalog := by
  rw [drop, Operation.bind_of_ok (Operation.look_eq c)]
  by_cases hclosed : c.isClosed ix.map = true
  · rw [if_pos hclosed]
    exact .inl rfl
  · rw [if_neg hclosed]
    exact .inr rfl

theorem close_catalog (ix : Index) (session : Session) (c : Catalog) :
    (ix.close session c).catalog = c ∨
      (ix.close session c).catalog = (ix.store.close c).catalog := by
  by_cases hclosed : ix.closed = true
  · refine .inl ?_
    rw [close, if_pos hclosed]
    rfl
  · refine .inr ?_
    rw [close, if_neg hclosed]
    rfl

theorem markRebuilt_eq (ix : Index) (c : Catalog) :
    ix.markRebuilt c =
      ⟨.ok { ix with needsRebuild := false }, c,
        if ix.needsRebuild then [.rebuilt ix.name (ix.rowCount c)] else []⟩ := by
  rw [markRebuilt, Operation.bind_of_ok (Operation.look_eq _),
    Operation.bind_of_ok (Operation.writeIf_eq _ _)]
  simp [Operation.pure_apply]

end Index

/-! ### Opening an index -/

namespace Session

variable {session : Session} {c : Catalog} {d : Declaration} {storage : Storage}

/-- The storage that an index of a session gets: that of the session if the index is persistent,
the next private one if it is not. -/
def storageFor (session : Session) (persistent : Bool) (c : Catalog) : Option Storage :=
  match persistent with
  | true => session.storage.map .named
  | false => some (.ephemeral c.stores.length)

theorem openStore_of_some {persistent : Bool} (h : session.storageFor persistent c = some storage) :
    session.openStore persistent c = ⟨.ok ⟨c.stores.length⟩, c.addStore storage, []⟩ := by
  cases persistent with
  | true =>
    obtain ⟨name, hname, rfl⟩ := Option.map_eq_some_iff.mp h
    simp only [openStore, hname]
    rfl
  | false =>
    obtain rfl := Option.some.inj h
    rfl

theorem openStore_of_none {persistent : Bool} (h : session.storageFor persistent c = none) :
    session.openStore persistent c = ⟨.error .noStore, c, []⟩ := by
  cases persistent with
  | true =>
    have hnone := Option.map_eq_none_iff.mp h
    simp only [openStore, hnone]
    rfl
  | false => cases h

/-- Opening an index opens a store and the map in it, and writes what it found; or it fails, changes
nothing and writes nothing. -/
theorem openIndex_effect (session : Session) (d : Declaration) (table : String) (c : Catalog) :
    (∃ column storage map c' ix, session.storageFor d.persistent c = some storage ∧
        d.column session.starting = .ok column ∧
        StoreId.openMap ⟨c.stores.length⟩ d.mapName (c.addStore storage) =
          ⟨.ok ⟨d.mapName, map, ⟨c.stores.length⟩⟩, c', [.openedMap d.mapName]⟩ ∧
        ix = {
          id := d.id, name := d.name, column, table, store := ⟨c.stores.length⟩,
          map := ⟨d.mapName, map, ⟨c.stores.length⟩⟩, cost := .spatial,
          needsRebuild := d.needsRebuild (c'.entries map).size, closed := false } ∧
        session.openIndex d table c = ⟨.ok ix, c',
          [.openedMap d.mapName] ++
            ((if ix.needsRebuild && !d.create then [.emptyOnReopen d.name d.mapName] else []) ++
              [.openedIndex d.name d.id table d.mapName d.persistent d.create ix.needsRebuild])⟩) ∨
      ∃ e, session.openIndex d table c = ⟨.error e, c, []⟩ := by
  cases hcolumn : d.column session.starting with
  | error fault =>
    refine .inr ⟨.config fault, ?_⟩
    rw [openIndex, hcolumn, Operation.bind_of_error (Operation.ofExcept_error _ _)]
  | ok column =>
    rw [openIndex, hcolumn, Operation.bind_of_ok (Operation.ofExcept_ok _ _)]
    cases hstorage : session.storageFor d.persistent c with
    | none =>
      rw [Operation.bind_of_error (openStore_of_none hstorage)]
      exact .inr ⟨_, rfl⟩
    | some storage =>
      -- The store is new, so it is open, and opening the map cannot fail.
      let store : StoreId := ⟨c.stores.length⟩
      have hstore : (c.addStore storage).stores[store.number]? = some ⟨storage, false⟩ := by
        simp [Catalog.addStore, store]
      obtain ⟨map, hopen⟩ := store.openMap_of_open hstore rfl d.mapName
      rw [Operation.bind_of_ok (openStore_of_some hstorage), Operation.bind_of_ok hopen,
        Operation.bind_of_ok (Operation.look_eq _), Operation.bind_of_ok (Operation.writeIf_eq _ _),
        Operation.bind_of_ok (Operation.write_eq _)]
      exact .inl ⟨column, storage, map, _, _, rfl, rfl, hopen, rfl, rfl⟩

/-- **Opening an index** opens a store and the map in it, or fails and changes nothing. -/
theorem openIndex_cases (session : Session) (d : Declaration) (table : String) (c : Catalog) :
    (∃ column storage map log, session.storageFor d.persistent c = some storage ∧
        d.column session.starting = .ok column ∧
        StoreId.openMap ⟨c.stores.length⟩ d.mapName (c.addStore storage) =
          ⟨.ok ⟨d.mapName, map, ⟨c.stores.length⟩⟩, (session.openIndex d table c).catalog, log⟩ ∧
        (session.openIndex d table c).answer = .ok {
          id := d.id, name := d.name, column, table, store := ⟨c.stores.length⟩,
          map := ⟨d.mapName, map, ⟨c.stores.length⟩⟩, cost := .spatial,
          needsRebuild := d.needsRebuild ((session.openIndex d table c).catalog.entries map).size,
          closed := false }) ∨
      ∃ e, (session.openIndex d table c).answer = .error e ∧
        (session.openIndex d table c).catalog = c := by
  rcases session.openIndex_effect d table c with
    ⟨column, storage, map, c', ix, hstorage, hcolumn, hopen, rfl, heffect⟩ | ⟨e, heffect⟩
  · rw [heffect]
    exact .inl ⟨column, storage, map, _, hstorage, hcolumn, hopen, rfl⟩
  · rw [heffect]
    exact .inr ⟨e, rfl, rfl⟩

end Session

end GeometryIndex

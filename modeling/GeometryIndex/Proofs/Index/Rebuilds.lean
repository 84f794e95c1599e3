import GeometryIndex.Proofs.Index.Histories

/-!
# Indexes — rebuilding

An index that has just been opened and says that it has to be rebuilt is given every row of its
table and then marked as rebuilt (`Index.rebuild`).  Nothing clears its map first.

* `Index.rebuild_exact_iff`: so the rebuilt index has one key for each row exactly if it had no keys
  when it was opened;
* `Index.opened_without_keys`: so it is for an index of its own, and for one that is opened again;
* `Index.rebuild_doubles`: one that is created in the store of the database, over the map that an
  earlier index has left there, ends up with the keys of both.
-/

namespace GeometryIndex

open Catalog

variable {c : Catalog} {M : Contents}

/-! ### An index that has just been opened -/

theorem StoreId.openMap_opened {store : StoreId} {name : String} {handle : MapHandle}
    {c' : Catalog} {log : List LogEntry} (h : store.openMap name c = ⟨.ok handle, c', log⟩) :
    c'.isStoreClosed store = false ∧ ∃ storage, ((storage, name), handle.map) ∈ c'.directory := by
  cases hclosed : c.isStoreClosed store with
  | true =>
    rw [openMap_of_closed hclosed] at h
    cases h
  | false =>
    obtain ⟨s, hs, hopen⟩ := isStoreClosed_eq_false hclosed
    cases hfind : c.find? s.storage name with
    | some map =>
      rw [openMap_of_some hs hopen hfind] at h
      cases h
      exact ⟨hclosed, s.storage, mem_directory_of_find? hfind⟩
    | none =>
      rw [openMap_of_none hs hopen hfind] at h
      cases h
      exact ⟨hclosed, s.storage, List.mem_cons_self⟩

namespace Index

variable {ix : Index} {session : Session} {d : Declaration} {table : String}

theorem isClosed_opened (h : Reachable c M)
    (hopened : (session.openIndex d table c).answer = .ok ix) :
    ix.isClosed (session.openIndex d table c).catalog = false := by
  rcases session.openIndex_cases d table c with
    ⟨column, storage, map, log, -, -, hmap, hanswer⟩ | ⟨e, herror, -⟩
  · obtain rfl := Except.ok.inj (hanswer.symm.trans hopened)
    obtain ⟨hstore, storage', hlisted⟩ := StoreId.openMap_opened hmap
    have hlive := (h.openIndex session d table).wellFormed.live _ hlisted
    exact isClosed_eq_false.mpr ⟨rfl, Bool.or_eq_false_iff.mpr ⟨hstore, hlive⟩⟩
  · rw [herror] at hopened
    cases hopened

/-- **An index of its own is opened without keys**, since its storage is new. -/
theorem private_opened_empty (h : Reachable c M)
    (hopened : (session.openIndex d table c).answer = .ok ix) (hprivate : d.persistent = false) :
    (session.openIndex d table c).catalog.entries ix.map.map = .empty := by
  rcases session.openIndex_cases d table c with
    ⟨column, storage, map, log, hstorage, -, hmap, hanswer⟩ | ⟨e, herror, -⟩
  · obtain rfl := Except.ok.inj (hanswer.symm.trans hopened)
    rw [hprivate] at hstorage
    obtain rfl := Option.some.inj hstorage
    -- No name of the catalog is in a storage that is yet to come.
    have hfind : (c.addStore (.ephemeral c.stores.length)).find? (.ephemeral c.stores.length)
        d.mapName = none := by
      cases hfind : c.find? (.ephemeral c.stores.length) d.mapName with
      | none => exact hfind
      | some map' =>
        have hknown := h.wellFormed.directory _ (mem_directory_of_find? hfind)
        exact absurd (hknown _ rfl) (Nat.lt_irrefl _)
    have hstore : (c.addStore (.ephemeral c.stores.length)).stores[c.stores.length]? =
        some ⟨.ephemeral c.stores.length, false⟩ := by
      simp [Catalog.addStore]
    have hcreate := StoreId.openMap_of_none hstore rfl hfind
    rw [hmap, Effect.mk.injEq] at hcreate
    obtain ⟨hhandle, hcatalog, -⟩ := hcreate
    obtain rfl := congrArg MapHandle.map (Except.ok.inj hhandle)
    rw [hcatalog, entries_create, Catalog.entries, List.getElem?_eq_none (Nat.le_refl _)]
    rfl
  · rw [herror] at hopened
    cases hopened

/-- **Only an index that is created in the store of the database can have keys when it asks to be
rebuilt.**  Any other one asks because its map is empty, or because its storage is new; that its map
is empty shows in the number of its keys, as long as they do not exhaust a word of 64 bits. -/
theorem opened_without_keys (h : Reachable c M)
    (hopened : (session.openIndex d table c).answer = .ok ix) (hneeds : ix.needsRebuild = true)
    (hother : ¬ (d.persistent = true ∧ d.create = true))
    (hfits : (M ix.map.map).card < UInt64.size) : M ix.map.map = 0 := by
  have hcount := rowCount_eq (h.openIndex session d table) ix
  have hnone : ix.rowCount (session.openIndex d table c).catalog = 0 := by
    by_cases hprivate : d.persistent = false
    · rw [rowCount, Catalog.size, private_opened_empty h hopened hprivate]
      rfl
    · rcases session.openIndex_cases d table c with
        ⟨column, storage, map, log, -, -, -, hanswer⟩ | ⟨e, herror, -⟩
      · obtain rfl := Except.ok.inj (hanswer.symm.trans hopened)
        have hpersistent : d.persistent = true := by simpa using hprivate
        have hreopened : d.create = false := by simpa [hpersistent] using hother
        have hsize :
          d.needsRebuild ((session.openIndex d table c).catalog.entries map).size = true := hneeds
        rw [Declaration.needsRebuild, hpersistent, hreopened, Bool.false_or, Bool.true_and] at hsize
        exact of_decide_eq_true hsize
      · rw [herror] at hopened
        cases hopened
  rw [hcount, UInt64.ofNat_eq_iff_mod_eq_toNat, Nat.mod_eq_of_lt hfits] at hnone
  exact Multiset.card_eq_zero.mp hnone

/-! ### Adding rows and marking the index as rebuilt -/

/-- Adds rows one after the other. -/
def addAll (ix : Index) (session : Session) : List Row → Operation Unit
  | [] => pure ()
  | row :: rows => do
    ix.add session row
    ix.addAll session rows

/-- What is asked for by an index that has to be rebuilt: all rows are added, and it is marked. -/
def rebuild (ix : Index) (session : Session) (rows : List Row) : Operation Index := do
  ix.addAll session rows
  ix.markRebuilt

/-- Rows and their keys. -/
def Keys (ix : Index) (rows : List Row) (keys : List Key) : Prop :=
  List.Forall₂ (fun row key => ix.key row = .ok key) rows keys

/-- Rows of different ids have different keys. -/
theorem Keys.nodup {rows : List Row} {keys : List Key} (h : ix.Keys rows keys)
    (hids : (rows.map Row.id).Nodup) : keys.Nodup := by
  have hrows : keys.map Key.row = rows.map Row.id := by
    induction h with
    | nil => rfl
    | cons hkey _ ih =>
      rw [List.map_cons, List.map_cons, row_of_key hkey, ih (List.nodup_cons.mp hids).2]
  exact List.Nodup.of_map _ (hrows ▸ hids)

/-- **Adding rows** to an open index adds their keys to whatever its map contains. -/
theorem addAll_of_open {rows : List Row} {keys : List Key} (hkeys : ix.Keys rows keys)
    (session : Session) (h : Reachable c M) (hopen : ix.isClosed c = false) :
    ∃ c' log, ix.addAll session rows c = ⟨.ok (), c', log⟩ ∧ ix.isClosed c' = false ∧
      Reachable c' (Function.update M ix.map.map ((keys : Multiset Key) + M ix.map.map)) := by
  -- One more row leaves the index open and the catalog reachable, which is what the rest asks for.
  induction hkeys generalizing c M with
  | nil => exact ⟨c, [], rfl, hopen, by simpa using h⟩
  | @cons row key rows keys hkey _ ih =>
    have hmap := (isClosed_eq_false.mp hopen).2
    have hstep := h.add ix.map key (by rw [MapHandle.add_of_open hmap])
    have hopen' : ix.isClosed (ix.map.add key c).catalog = false := by
      rw [MapHandle.add_of_open hmap, isClosed_setEntries]
      exact hopen
    obtain ⟨c', log, hrest, hclosed, hreachable⟩ := ih hstep hopen'
    refine ⟨c', [.add ix.name session.id key.row] ++ log, ?_, hclosed, ?_⟩
    · rw [addAll, Operation.bind_of_ok (add_of_open hopen hkey), hrest]
    · rw [Function.update_idem, Function.update_self, Multiset.add_cons, ← Multiset.cons_add]
        at hreachable
      exact hreachable

/-- **Rebuilding** an open index succeeds, and adds the keys of the rows. -/
theorem rebuild_of_open {rows : List Row} {keys : List Key} (hkeys : ix.Keys rows keys)
    (session : Session) (h : Reachable c M) (hopen : ix.isClosed c = false) :
    ∃ c' log, ix.rebuild session rows c = ⟨.ok { ix with needsRebuild := false }, c', log⟩ ∧
      ix.isClosed c' = false ∧
      Reachable c' (Function.update M ix.map.map ((keys : Multiset Key) + M ix.map.map)) := by
  obtain ⟨c', log, hadded, hclosed, hreachable⟩ := addAll_of_open hkeys session h hopen
  have hmarked := markRebuilt_eq ix c'
  refine ⟨c', log ++ (ix.markRebuilt c').log, ?_, hclosed, hreachable⟩
  rw [rebuild, Operation.bind_of_ok hadded, hmarked]

/-! ### Exactness -/

/-- New keys, each of them once, are the whole content exactly if there was none before. -/
theorem perm_iff_of_count {keys before after : List Key} (hnodup : keys.Nodup) {N : Multiset Key}
    (hbefore : ∀ key, before.count key = N.count key % UInt32.size)
    (hafter : ∀ key, after.count key = ((keys : Multiset Key) + N).count key % UInt32.size) :
    after.Perm keys ↔ before = [] := by
  have hsize : UInt32.size = 2 ^ 32 := rfl
  rw [List.perm_iff_count, List.eq_nil_iff_forall_not_mem]
  -- Key by key: one occurrence at most is new, and both counts are words of the same size.
  refine forall_congr' fun key => ?_
  have honce := List.nodup_iff_count_le_one.mp hnodup key
  rw [← List.count_eq_zero, hbefore, hafter, Multiset.count_add, Multiset.coe_count, hsize]
  omega

/-- **When a rebuilt index is exact.**  Open an index, and let `before` be the keys it contains
already.  Adding rows of different ids, each of which has a key, and marking the index as rebuilt
succeeds, and the index then finds the keys of the rows, one for each, and counts as many, if and
only if it found none and counted none before. -/
theorem rebuild_exact_iff (h : Reachable c M)
    (hopened : (session.openIndex d table c).answer = .ok ix) {rows : List Row} {keys : List Key}
    (hids : (rows.map Row.id).Nodup) (hkeys : ix.Keys rows keys) :
    ∃ ix' rebuilt log before after,
      ix.rebuild session rows (session.openIndex d table c).catalog = ⟨.ok ix', rebuilt, log⟩ ∧
      ix'.needsRebuild = false ∧
      (ix.find session (session.openIndex d table c).catalog).answer =
        .ok (.start before ix.table session.id) ∧
      (ix'.find session rebuilt).answer = .ok (.start after ix.table session.id) ∧
      (after.Perm keys ∧ ix'.rowCount rebuilt = UInt64.ofNat rows.length ↔
        before = [] ∧ ix.rowCount (session.openIndex d table c).catalog = 0) := by
  have hreachable := h.openIndex session d table
  have hopen := isClosed_opened h hopened
  obtain ⟨rebuilt, log, hdone, hclosed, hrebuilt⟩ := rebuild_of_open hkeys session hreachable hopen
  have hbefore := (hreachable.holds.entries ix.map.map).count_toList
  have hafter := (hrebuilt.holds.entries ix.map.map).count_toList
  have hcountBefore := rowCount_eq hreachable ix
  have hcountAfter := rowCount_eq hrebuilt ix
  rw [Function.update_self] at hafter hcountAfter
  refine ⟨{ ix with needsRebuild := false }, rebuilt, log, _, (rebuilt.entries ix.map.map).toList,
    hdone, rfl, by rw [find_of_open hopen], ?_, ?_⟩
  · have hmarked : Index.isClosed { ix with needsRebuild := false } rebuilt = false := hclosed
    rw [find_of_open hmarked]
  · -- The scan shows whether there were keys, and the size whether any were counted.
    refine and_congr (perm_iff_of_count (hkeys.nodup hids) hbefore hafter) ?_
    have hlength : rows.length = keys.length := hkeys.length_eq
    show ix.rowCount rebuilt = _ ↔ _
    rw [hcountAfter, hcountBefore, Multiset.card_add, Multiset.coe_card, UInt64.ofNat_add, hlength]
    exact UInt64.add_eq_left

theorem rebuild_exact_iff_sample :
    (Session.sample.openIndex .sample "T" .empty).answer = .ok (.sample ⟨0⟩) ∧
      ([⟨1, []⟩, ⟨2, []⟩].map Row.id).Nodup ∧
      (Index.sample ⟨0⟩).Keys [⟨1, []⟩, ⟨2, []⟩] [⟨1, none⟩, ⟨2, none⟩] ∧
      ∃ ix' rebuilt log after,
        (Index.sample ⟨0⟩).rebuild .sample [⟨1, []⟩, ⟨2, []⟩]
          (Session.sample.openIndex .sample "T" .empty).catalog = ⟨.ok ix', rebuilt, log⟩ ∧
        (ix'.find .sample rebuilt).answer = .ok (.start after "T" 1) ∧
        after.Perm [⟨1, none⟩, ⟨2, none⟩] ∧ ix'.rowCount rebuilt = 2 := by
  have hopened : (Session.sample.openIndex .sample "T" .empty).answer = .ok (.sample ⟨0⟩) := rfl
  have hids : ([⟨1, []⟩, ⟨2, []⟩].map Row.id).Nodup := by decide
  have hkeys : (Index.sample ⟨0⟩).Keys [⟨1, []⟩, ⟨2, []⟩] [⟨1, none⟩, ⟨2, none⟩] :=
    .cons rfl (.cons rfl .nil)
  obtain ⟨ix', rebuilt, log, before, after, hdone, -, hbefore, hafter, hexact⟩ :=
    rebuild_exact_iff .empty hopened hids hkeys
  obtain ⟨rfl⟩ : [] = before := by
    have hnone : ((Index.sample ⟨0⟩).find .sample
        (Session.sample.openIndex .sample "T" .empty).catalog).answer =
          .ok (.start [] "T" 1) := rfl
    exact congrArg Cursor.rest (Except.ok.inj (hnone.symm.trans hbefore))
  obtain ⟨hperm, hcount⟩ := hexact.mpr ⟨rfl, rfl⟩
  exact ⟨hopened, hids, hkeys, ix', rebuilt, log, after, hdone, hafter, hperm, hcount⟩

/-- An index is created, given a row, and closed. -/
def leftHistory : List Request :=
  [.openIndex "i" .sample .sample "T", .index "i" (.put .sample ⟨1, []⟩ "T"),
    .index "i" .markRebuilt, .index "i" (.close .sample)]

/-- **What is left of an earlier index stays.**  The index is created once more, asks to be rebuilt,
and is given the only row of its table: it then has the key of the row twice. -/
theorem rebuild_doubles :
    (Session.sample.openIndex .sample "T" (Database.empty.after leftHistory).catalog).answer =
        .ok (.sample ⟨1⟩) ∧
      (Index.sample ⟨1⟩).needsRebuild = true ∧
      (Index.sample ⟨1⟩).Keys [⟨1, []⟩] [⟨1, none⟩] ∧
      ∃ ix' rebuilt log,
        (Index.sample ⟨1⟩).rebuild .sample [⟨1, []⟩]
          (Session.sample.openIndex .sample "T"
            (Database.empty.after leftHistory).catalog).catalog = ⟨.ok ix', rebuilt, log⟩ ∧
        (ix'.find .sample rebuilt).answer = .ok (.start [⟨1, none⟩, ⟨1, none⟩] "T" 1) ∧
        ix'.rowCount rebuilt = 2 :=
  ⟨rfl, rfl, .cons rfl .nil, _, _, _, rfl, rfl, rfl⟩

end Index

end GeometryIndex

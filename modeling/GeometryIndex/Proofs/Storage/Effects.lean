import GeometryIndex.Storage.Operation

/-!
# Storage — what operations lead to

One equation for each way an operation on a store or a map can go.  On a closed handle every
operation fails and changes nothing (`MapHandle.add_of_closed` and its like).  On an open one it
does what it says: the `_of_open`, `_of_some` and `_of_none` equations give the answer, the catalog
and the log as a whole.
-/

namespace GeometryIndex

namespace Operation

variable {α β : Type} {c c' : Catalog} {log : List LogEntry}

theorem bind_of_ok {first : Operation α} {a : α} (h : first c = ⟨.ok a, c', log⟩)
    (second : α → Operation β) :
    (first >>= second) c =
      ⟨(second a c').answer, (second a c').catalog, log ++ (second a c').log⟩ := by
  show andThen first second c = _
  rw [andThen_of_ok (a := a) (by rw [h]), h]

theorem bind_of_error {first : Operation α} {e : Error} (h : first c = ⟨.error e, c', log⟩)
    (second : α → Operation β) : (first >>= second) c = ⟨.error e, c', log⟩ := by
  show andThen first second c = _
  rw [andThen_of_error (e := e) (by rw [h]), h]

theorem failIf_of_false {condition : Catalog → Bool} (h : condition c = false) (e : Error) :
    failIf condition e c = ⟨.ok (), c, []⟩ := by
  simp [failIf, h, succeed]

theorem failIf_of_true {condition : Catalog → Bool} (h : condition c = true) (e : Error) :
    failIf condition e c = ⟨.error e, c, []⟩ := by
  simp [failIf, h, fail]

end Operation

namespace Catalog

variable {c : Catalog}

theorem isStoreClosed_eq_false {store : StoreId} (h : c.isStoreClosed store = false) :
    ∃ s, c.stores[store.number]? = some s ∧ s.closed = false := by
  unfold isStoreClosed at h
  cases hs : c.stores[store.number]? with
  | none => simp [hs] at h
  | some s => exact ⟨s, rfl, by simpa [hs] using h⟩

theorem isRemoved_eq_false {map : MapId} (h : c.isRemoved map = false) :
    ∃ m, c.maps[map.number]? = some m ∧ m.removed = false := by
  unfold isRemoved at h
  cases hm : c.maps[map.number]? with
  | none => simp [hm] at h
  | some m => exact ⟨m, rfl, by simpa [hm] using h⟩

/-- An open handle is on a map that is there. -/
theorem lt_of_isClosed {handle : MapHandle} (h : c.isClosed handle = false) :
    handle.map.number < c.maps.length := by
  obtain ⟨-, hmap⟩ := Bool.or_eq_false_iff.mp h
  obtain ⟨m, hm, -⟩ := isRemoved_eq_false hmap
  exact (List.getElem?_eq_some_iff.mp hm).1

end Catalog

/-! ### Maps -/

namespace MapHandle

variable {c : Catalog} {handle : MapHandle}

theorem entries_of_open (h : c.isClosed handle = false) :
    handle.entries c = ⟨.ok (c.entries handle.map), c, []⟩ :=
  Operation.bind_of_ok (Operation.failIf_of_false h _) _

theorem entries_of_closed (h : c.isClosed handle = true) :
    handle.entries c = ⟨.error (.closed (.map handle.name)), c, []⟩ :=
  Operation.bind_of_error (Operation.failIf_of_true h _) _

/-- Whatever succeeds on the content of a map was asked for through an open handle. -/
theorem isClosed_of_ok {α : Type} {next : Entries → Operation α} {a : α}
    (hok : ((handle.entries >>= next) c).answer = .ok a) : c.isClosed handle = false := by
  cases hclosed : c.isClosed handle with
  | false => rfl
  | true =>
    rw [Operation.bind_of_error (entries_of_closed hclosed)] at hok
    cases hok

theorem add_of_open (h : c.isClosed handle = false) (key : Key) :
    handle.add key c =
      ⟨.ok (), c.setEntries handle.map ((c.entries handle.map).insert key), []⟩ :=
  Operation.bind_of_ok (entries_of_open h) _

theorem add_of_closed (h : c.isClosed handle = true) (key : Key) :
    handle.add key c = ⟨.error (.closed (.map handle.name)), c, []⟩ :=
  Operation.bind_of_error (entries_of_closed h) _

theorem remove_of_some (h : c.isClosed handle = false) {key : Key} {left : Entries}
    (herase : (c.entries handle.map).erase? key = some left) :
    handle.remove key c = ⟨.ok true, c.setEntries handle.map left, []⟩ := by
  rw [remove, Operation.bind_of_ok (entries_of_open h)]
  simp only [herase]
  rfl

theorem remove_of_none (h : c.isClosed handle = false) {key : Key}
    (herase : (c.entries handle.map).erase? key = none) :
    handle.remove key c = ⟨.ok false, c, []⟩ := by
  rw [remove, Operation.bind_of_ok (entries_of_open h)]
  simp only [herase]
  rfl

theorem remove_of_closed (h : c.isClosed handle = true) (key : Key) :
    handle.remove key c = ⟨.error (.closed (.map handle.name)), c, []⟩ :=
  Operation.bind_of_error (entries_of_closed h) _

theorem clear_of_open (h : c.isClosed handle = false) :
    handle.clear c = ⟨.ok (), c.setEntries handle.map .empty, []⟩ :=
  Operation.bind_of_ok (entries_of_open h) _

theorem clear_of_closed (h : c.isClosed handle = true) :
    handle.clear c = ⟨.error (.closed (.map handle.name)), c, []⟩ :=
  Operation.bind_of_error (entries_of_closed h) _

theorem keys_of_open (h : c.isClosed handle = false) :
    handle.keys c = ⟨.ok (c.entries handle.map).toList, c, []⟩ :=
  Operation.bind_of_ok (entries_of_open h) _

theorem keys_of_closed (h : c.isClosed handle = true) :
    handle.keys c = ⟨.error (.closed (.map handle.name)), c, []⟩ :=
  Operation.bind_of_error (entries_of_closed h) _

theorem keysIntersecting_of_open (h : c.isClosed handle = false) (query : Key) :
    handle.keysIntersecting query c =
      ⟨.ok ((c.entries handle.map).select fun key => key.intersects query), c, []⟩ :=
  Operation.bind_of_ok (entries_of_open h) _

theorem keysIntersecting_of_closed (h : c.isClosed handle = true) (query : Key) :
    handle.keysIntersecting query c = ⟨.error (.closed (.map handle.name)), c, []⟩ :=
  Operation.bind_of_error (entries_of_closed h) _

end MapHandle

/-! ### Stores -/

namespace StoreId

variable {c : Catalog} {store : StoreId} {s : StoreState}

theorem openStorage_of_open (h : c.stores[store.number]? = some s) (hopen : s.closed = false) :
    store.openStorage c = ⟨.ok s.storage, c, []⟩ := by
  have hstore : c.isStoreClosed store = false := by simp [Catalog.isStoreClosed, h, hopen]
  rw [openStorage, Operation.bind_of_ok (Operation.failIf_of_false hstore _)]
  simp [storage, h, Operation.succeed]

theorem openStorage_of_closed (h : c.isStoreClosed store = true) :
    store.openStorage c = ⟨.error (.closed .store), c, []⟩ :=
  Operation.bind_of_error (Operation.failIf_of_true h _) _

theorem openMap_of_some (h : c.stores[store.number]? = some s) (hopen : s.closed = false)
    {name : String} {map : MapId} (hfind : c.find? s.storage name = some map) :
    store.openMap name c = ⟨.ok ⟨name, map, store⟩, c, [.openedMap name]⟩ := by
  have hmap : findOrCreate s.storage name c = ⟨.ok map, c, []⟩ := by
    simp [findOrCreate, Operation.bind_apply, Operation.andThen, Operation.look, hfind,
      Operation.pure_apply]
  rw [openMap, Operation.bind_of_ok (openStorage_of_open h hopen), Operation.bind_of_ok hmap]
  rfl

theorem openMap_of_none (h : c.stores[store.number]? = some s) (hopen : s.closed = false)
    {name : String} (hfind : c.find? s.storage name = none) :
    store.openMap name c =
      ⟨.ok ⟨name, ⟨c.maps.length⟩, store⟩, c.create s.storage name, [.openedMap name]⟩ := by
  have hmap : findOrCreate s.storage name c =
      ⟨.ok ⟨c.maps.length⟩, c.create s.storage name, []⟩ := by
    simp [findOrCreate, Operation.bind_apply, Operation.andThen, Operation.look, hfind,
      Operation.pure_apply, Operation.change]
  rw [openMap, Operation.bind_of_ok (openStorage_of_open h hopen), Operation.bind_of_ok hmap]
  rfl

/-- Through a store that is open, opening a map succeeds. -/
theorem openMap_of_open (store : StoreId) (h : c.stores[store.number]? = some s)
    (hopen : s.closed = false) (name : String) :
    ∃ map, store.openMap name c =
      ⟨.ok ⟨name, map, store⟩, (store.openMap name c).catalog, [.openedMap name]⟩ := by
  cases hfind : c.find? s.storage name with
  | some map => exact ⟨map, by rw [openMap_of_some h hopen hfind]⟩
  | none => exact ⟨⟨c.maps.length⟩, by rw [openMap_of_none h hopen hfind]⟩

theorem openMap_of_closed (h : c.isStoreClosed store = true) (name : String) :
    store.openMap name c = ⟨.error (.closed .store), c, []⟩ :=
  Operation.bind_of_error (openStorage_of_closed h) _

theorem removeMap_of_some (h : c.stores[store.number]? = some s) (hopen : s.closed = false)
    {handle : MapHandle} {map : MapId} (hfind : c.find? s.storage handle.name = some map) :
    store.removeMap handle c =
      ⟨.ok (), c.remove s.storage handle.name map, [.removedMap handle.name]⟩ := by
  rw [removeMap, Operation.bind_of_ok (openStorage_of_open h hopen)]
  simp [Operation.bind_apply, Operation.andThen, Operation.look, hfind, Operation.change,
    Operation.write]

theorem removeMap_of_none (h : c.stores[store.number]? = some s) (hopen : s.closed = false)
    {handle : MapHandle} (hfind : c.find? s.storage handle.name = none) :
    store.removeMap handle c = ⟨.ok (), c, []⟩ := by
  rw [removeMap, Operation.bind_of_ok (openStorage_of_open h hopen)]
  simp [Operation.bind_apply, Operation.andThen, Operation.look, hfind, Operation.pure_apply]

theorem removeMap_of_closed (h : c.isStoreClosed store = true) (handle : MapHandle) :
    store.removeMap handle c = ⟨.error (.closed .store), c, []⟩ :=
  Operation.bind_of_error (openStorage_of_closed h) _

end StoreId

end GeometryIndex

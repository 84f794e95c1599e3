import GeometryIndex.Log
import GeometryIndex.Storage.Catalog

/-!
# Operations on a catalog

An operation has an answer, a catalog after it, and the entries that it wrote to the log.  It may
fail; what it changed and wrote before stays.
-/

namespace GeometryIndex

/-- What an operation leads to. -/
structure Effect (α : Type) where
  answer : Except Error α
  catalog : Catalog
  log : List LogEntry

def Operation (α : Type) : Type := Catalog → Effect α

namespace Operation

variable {α β : Type}

def succeed (a : α) : Operation α := fun c => ⟨.ok a, c, []⟩

def fail (e : Error) : Operation α := fun c => ⟨.error e, c, []⟩

/-- One operation, and if it succeeds another one that knows its answer. -/
def andThen (first : Operation α) (second : α → Operation β) : Operation β := fun c =>
  let effect := first c
  match effect.answer with
  | .error e => ⟨.error e, effect.catalog, effect.log⟩
  | .ok a =>
    let next := second a effect.catalog
    { next with log := effect.log ++ next.log }

instance : Monad Operation where
  pure := succeed
  bind := andThen

/-- The catalog as it is. -/
def look : Operation Catalog := fun c => ⟨.ok c, c, []⟩

def change (f : Catalog → Catalog) : Operation Unit := fun c => ⟨.ok (), f c, []⟩

def write (entry : LogEntry) : Operation Unit := fun c => ⟨.ok (), c, [entry]⟩

def writeIf (condition : Bool) (entry : LogEntry) : Operation Unit :=
  if condition then write entry else succeed ()

/-- Fails if a condition holds of the catalog. -/
def failIf (condition : Catalog → Bool) (e : Error) : Operation Unit := fun c =>
  if condition c then fail e c else succeed () c

/-- A result obtained without a catalog. -/
def ofExcept {ε : Type} (cause : ε → Error) : Except ε α → Operation α
  | .ok a => succeed a
  | .error e => fail (cause e)

theorem pure_apply (a : α) (c : Catalog) : (pure a : Operation α) c = ⟨.ok a, c, []⟩ := rfl

theorem bind_apply (first : Operation α) (second : α → Operation β) (c : Catalog) :
    (first >>= second) c = first.andThen second c := rfl

theorem andThen_of_ok {first : Operation α} {c : Catalog} {a : α}
    (h : (first c).answer = .ok a) (second : α → Operation β) :
    first.andThen second c =
      { second a (first c).catalog with
        log := (first c).log ++ (second a (first c).catalog).log } := by
  simp [andThen, h]

theorem andThen_of_error {first : Operation α} {c : Catalog} {e : Error}
    (h : (first c).answer = .error e) (second : α → Operation β) :
    first.andThen second c = ⟨.error e, (first c).catalog, (first c).log⟩ := by
  simp [andThen, h]

end Operation

/-! ### Stores -/

namespace Storage

/-- A new store over a storage.  Other stores over it are not affected. -/
def openStore (storage : Storage) : Operation StoreId := do
  let c ← Operation.look
  Operation.change fun c => c.addStore storage
  return ⟨c.stores.length⟩

/-- A new store over a new private storage. -/
def openEphemeral : Operation StoreId := do
  let c ← Operation.look
  openStore (.ephemeral c.stores.length)

end Storage

namespace StoreId

/-- The storage of a store. -/
def storage (store : StoreId) : Operation Storage := fun c =>
  match c.stores[store.number]? with
  | some s => Operation.succeed s.storage c
  | none => Operation.fail (.closed .store) c

/-- The storage of a store that is open. -/
def openStorage (store : StoreId) : Operation Storage := do
  Operation.failIf (fun c => c.isStoreClosed store) (.closed .store)
  store.storage

def close (store : StoreId) : Operation Unit := Operation.change fun c => c.closeStore store

/-- The map of a name in a storage, which is created if there is none. -/
def findOrCreate (storage : Storage) (name : String) : Operation MapId := do
  let c ← Operation.look
  match c.find? storage name with
  | some map => return map
  | none => do
    Operation.change fun c => c.create storage name
    return ⟨c.maps.length⟩

/-- A handle on the map of a name, which is created if there is none. -/
def openMap (store : StoreId) (name : String) : Operation MapHandle := do
  let storage ← store.openStorage
  let map ← findOrCreate storage name
  Operation.write (.openedMap name)
  return { name, map, store }

/-- Removes the map that has the name of the given one in the storage of this store, if there is
one.  It need not be the given one. -/
def removeMap (store : StoreId) (handle : MapHandle) : Operation Unit := do
  let storage ← store.openStorage
  let c ← Operation.look
  match c.find? storage handle.name with
  | some map => do
    Operation.change fun c => c.remove storage handle.name map
    Operation.write (.removedMap handle.name)
  | none => pure ()

end StoreId

/-! ### Maps -/

namespace MapHandle

/-- The content of the map, if the handle is open. -/
def entries (handle : MapHandle) : Operation Entries := do
  Operation.failIf (fun c => c.isClosed handle) (.closed (.map handle.name))
  return (← Operation.look).entries handle.map

def add (handle : MapHandle) (key : Key) : Operation Unit := do
  let entries ← handle.entries
  Operation.change fun c => c.setEntries handle.map (entries.insert key)

/-- Removes one occurrence of a key, and answers whether there was one. -/
def remove (handle : MapHandle) (key : Key) : Operation Bool := do
  let entries ← handle.entries
  match entries.erase? key with
  | some rest => do
    Operation.change fun c => c.setEntries handle.map rest
    return true
  | none => return false

def clear (handle : MapHandle) : Operation Unit := do
  let _ ← handle.entries
  Operation.change fun c => c.setEntries handle.map .empty

/-- All keys at this moment, in ascending order. -/
def keys (handle : MapHandle) : Operation (List Key) := do
  return (← handle.entries).toList

/-- The keys at this moment whose boxes overlap or touch that of the query. -/
def keysIntersecting (handle : MapHandle) (query : Key) : Operation (List Key) := do
  return (← handle.entries).select fun key => key.intersects query

end MapHandle

end GeometryIndex

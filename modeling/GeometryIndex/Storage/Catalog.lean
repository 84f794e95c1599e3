import GeometryIndex.Storage.Entries

/-!
# Catalogs

A catalog holds the maps of any number of storages.  A map lives from the moment it is created under
a name until it is removed; created again under the same name, it is another map.  Maps and stores
are told apart by their number in the order of creation, and never forgotten: a handle may outlive
what it refers to.
-/

namespace GeometryIndex

/-- A medium that holds maps by name: a shared one, or the private one of an ephemeral store. -/
inductive Storage
  | named (name : String)
  | ephemeral (number : Nat)
  deriving DecidableEq, Repr

/-- The number of a map. -/
structure MapId where
  number : Nat
  deriving DecidableEq, Repr

/-- The number of a store. -/
structure StoreId where
  number : Nat
  deriving DecidableEq, Repr

/-- A map, from its creation on. -/
structure MapState where
  entries : Entries
  removed : Bool
  deriving DecidableEq, Repr

/-- A store: access to a storage until it is closed. -/
structure StoreState where
  storage : Storage
  closed : Bool
  deriving DecidableEq, Repr

structure Catalog where
  maps : List MapState
  /-- The map that currently has a name in a storage. -/
  directory : List ((Storage × String) × MapId)
  stores : List StoreState
  deriving DecidableEq, Repr

/-- Access to a map by way of the store it was opened from. -/
structure MapHandle where
  name : String
  map : MapId
  store : StoreId
  deriving DecidableEq, Repr

namespace Catalog

def empty : Catalog := ⟨[], [], []⟩

/-- The map of a name in a storage. -/
def find? (c : Catalog) (storage : Storage) (name : String) : Option MapId :=
  c.directory.lookup (storage, name)

def contains (c : Catalog) (storage : Storage) (name : String) : Bool :=
  (c.find? storage name).isSome

/-- The names in a storage, in ascending order. -/
def names (c : Catalog) (storage : Storage) : List String :=
  let here := c.directory.filter fun entry => entry.1.1 = storage
  (here.map fun entry => entry.1.2).mergeSort fun a b => decide (a ≤ b)

/-- The content of a map. -/
def entries (c : Catalog) (map : MapId) : Entries :=
  (c.maps[map.number]?).elim .empty MapState.entries

def isRemoved (c : Catalog) (map : MapId) : Bool :=
  (c.maps[map.number]?).elim true MapState.removed

/-- Whether a store is closed, or does not exist. -/
def isStoreClosed (c : Catalog) (store : StoreId) : Bool :=
  (c.stores[store.number]?).elim true StoreState.closed

/-- Whether a map is out of reach through this handle. -/
def isClosed (c : Catalog) (handle : MapHandle) : Bool :=
  c.isStoreClosed handle.store || c.isRemoved handle.map

/-- The number of keys in the map of a handle, whether the handle is closed or not. -/
def size (c : Catalog) (handle : MapHandle) : UInt64 := (c.entries handle.map).size

/-- A change of the content of one map. -/
def setEntries (c : Catalog) (map : MapId) (entries : Entries) : Catalog :=
  { c with maps := c.maps.modify map.number fun m => { m with entries } }

/-- A new empty map under a name that is not in use. -/
def create (c : Catalog) (storage : Storage) (name : String) : Catalog :=
  { c with
    maps := c.maps ++ [⟨.empty, false⟩]
    directory := ((storage, name), ⟨c.maps.length⟩) :: c.directory }

/-- A map removed from under its name. -/
def remove (c : Catalog) (storage : Storage) (name : String) (map : MapId) : Catalog :=
  { c with
    maps := c.maps.modify map.number fun m => { m with removed := true }
    directory := c.directory.filter fun entry => entry.1 ≠ (storage, name) }

/-- A new store over a storage. -/
def addStore (c : Catalog) (storage : Storage) : Catalog :=
  { c with stores := c.stores ++ [⟨storage, false⟩] }

def closeStore (c : Catalog) (store : StoreId) : Catalog :=
  { c with stores := c.stores.modify store.number fun s => { s with closed := true } }

end Catalog

end GeometryIndex

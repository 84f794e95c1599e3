import GeometryIndex.Cost
import GeometryIndex.Declaration
import GeometryIndex.Index.Cursor
import GeometryIndex.Storage.Operation

/-!
# Spatial indexes

An index turns rows into keys and keeps the keys in a map.  What the handle of an index knows by
itself is here; what it does to the map and the log are operations on the catalog.

An index has to be rebuilt when it was created, or when it is persistent and its map was empty when
it was opened.  It stays so until it is marked as rebuilt.
-/

namespace GeometryIndex

/-- Who works with an index. -/
structure Session where
  id : UInt64
  /-- The database is still starting. -/
  starting : Bool
  /-- The storage of the database's persistent maps, if the session can reach it. -/
  storage : Option String
  deriving DecidableEq, Repr

/-- An open index, or one that was closed. -/
structure Index where
  id : Int32
  name : String
  column : IndexedColumn
  /-- The name of the indexed table. -/
  table : String
  store : StoreId
  map : MapHandle
  cost : CostModel
  needsRebuild : Bool
  closed : Bool

/-- A new store for an index: over the storage of the session if the index is persistent, over one
of its own if not. -/
def Session.openStore (session : Session) (persistent : Bool) : Operation StoreId :=
  match persistent, session.storage with
  | true, some name => (Storage.named name).openStore
  | true, none => Operation.fail .noStore
  | false, _ => Storage.openEphemeral

/-- Whether an index has to be rebuilt whose map has `size` keys when it is opened. -/
def Declaration.needsRebuild (d : Declaration) (size : UInt64) : Bool :=
  d.create || (d.persistent && decide (size = 0))

/-- Opens an index as declared, or refuses the declaration. -/
def Session.openIndex (session : Session) (d : Declaration) (table : String) : Operation Index := do
  let column ← Operation.ofExcept .config (d.column session.starting)
  let store ← session.openStore d.persistent
  let map ← store.openMap d.mapName
  let c ← Operation.look
  let needsRebuild := d.needsRebuild (c.size map)
  Operation.writeIf (needsRebuild && !d.create) (.emptyOnReopen d.name d.mapName)
  Operation.write
    (.openedIndex d.name d.id table d.mapName d.persistent d.create needsRebuild)
  return {
    id := d.id, name := d.name, column, table, store, map, cost := .spatial, needsRebuild,
    closed := false }

namespace Index

/-- Whether the index or the map behind it is closed. -/
def isClosed (ix : Index) (c : Catalog) : Bool := ix.closed || c.isClosed ix.map

/-- The number of keys in the index. -/
def rowCount (ix : Index) (c : Catalog) : UInt64 := c.size ix.map

/-- The space on a disk: none, since maps are kept in memory. -/
def diskSpace (_ : Index) : UInt64 := 0

/-- The estimated cost of a scan. -/
def scanCost (ix : Index) (masks : List UInt32) : Double := ix.cost masks [ix.column]

/-- The key of a row. -/
def key (ix : Index) (row : Row) : Except DecodeFault Key := do
  let envelope ← (row.value ix.column.column.id.toNat).envelope?
  return .ofEnvelope row.id envelope

/-- Fails on an index that was closed. -/
def requireOpen (ix : Index) : Operation Unit :=
  Operation.failIf (fun _ => ix.closed) (.closed (.index ix.name))

/-- The key of a row, for an index that is open. -/
def openKey (ix : Index) (row : Row) : Operation Key := do
  ix.requireOpen
  Operation.ofExcept .decode (ix.key row)

/-- Adds the key of a row. -/
def add (ix : Index) (session : Session) (row : Row) : Operation Unit := do
  let key ← ix.openKey row
  Operation.write (.add ix.name session.id key.row)
  ix.map.add key

/-- Removes the key of a row, which has to be there. -/
def remove (ix : Index) (session : Session) (row : Row) : Operation Unit := do
  let key ← ix.openKey row
  Operation.write (.remove ix.name session.id key.row)
  if ← ix.map.remove key then
    pure ()
  else
    Operation.write (.missingRow ix.name ix.table key.row)
    Operation.fail (.integrity (.missingRow key.row ix.name))

/-- A cursor over all keys. -/
def find (ix : Index) (session : Session) : Operation Cursor := do
  ix.requireOpen
  return .start (← ix.map.keys) ix.table session.id

/-- A cursor over the keys that intersect the key of a row, or over all keys without a row. -/
def search (ix : Index) (session : Session) (row : Option Row) : Operation Cursor :=
  match row with
  | none => ix.find session
  | some row => do
    let query ← ix.openKey row
    Operation.write (.search ix.name session.id query.box)
    return .start (← ix.map.keysIntersecting query) ix.table session.id

/-- Removes all keys. -/
def truncate (ix : Index) (session : Session) : Operation Unit := do
  ix.requireOpen
  Operation.write (.truncate ix.name session.id)
  ix.map.clear

/-- Removes the map behind the index, unless it is closed already. -/
def drop (ix : Index) (session : Session) : Operation Unit := do
  let c ← Operation.look
  if c.isClosed ix.map then
    pure ()
  else
    Operation.write (.drop ix.name session.id ix.map.name)
    ix.store.removeMap ix.map

/-- Closes the index and its store.  Closing again does nothing. -/
def close (ix : Index) (session : Session) : Operation Index := do
  if ix.closed then
    return ix
  else
    Operation.write (.close ix.name session.id)
    ix.store.close
    return { ix with closed := true }

/-- Notes that every row of the table was added. -/
def markRebuilt (ix : Index) : Operation Index := do
  let c ← Operation.look
  Operation.writeIf ix.needsRebuild (.rebuilt ix.name (ix.rowCount c))
  return { ix with needsRebuild := false }

def describe (ix : Index) : String :=
  Text.record "SpatialTreeIndex"
    [("id", toString ix.id), ("name", Text.quoted ix.name), ("table", Text.quoted ix.table),
      ("map", Text.quoted ix.map.name), ("need_rebuild", Text.truth ix.needsRebuild),
      ("closed", Text.truth ix.closed)]

end Index

end GeometryIndex

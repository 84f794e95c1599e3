import GeometryIndex.Index.Basic

/-!
# A database with spatial indexes

A catalog of maps, tables, and indexes that are open under names.  A request is answered by
`Database.perform`, which changes the database and writes to the log; a history is a list of
requests, answered one after the other by `Database.run`.

A request that names an index which is not there is refused.  An index that cannot be opened leaves
the name as it was.
-/

namespace GeometryIndex

structure Database where
  catalog : Catalog
  tables : List Table
  indexes : List (String × Index)

/-- What can be asked of one index. -/
inductive IndexRequest
  | close (session : Session)
  | markRebuilt
  | setCost (cost : CostModel)
  | add (session : Session) (row : Row)
  /-- Adds a row to the index and then puts it in a table. -/
  | put (session : Session) (row : Row) (table : String)
  | remove (session : Session) (row : Row)
  | key (row : Row)
  | find (session : Session)
  | search (session : Session) (row : Option Row)
  | cursor (session : Session) (row : Option Row)
  | cost (masks : List UInt32)
  | truncate (session : Session)
  | drop (session : Session)
  | info
  | describe

inductive Request
  | openIndex (name : String) (session : Session) (declaration : Declaration) (table : String)
  | index (name : String) (request : IndexRequest)
  | insertRow (table : String) (row : Row)
  | deleteRow (table : String) (row : Int64)
  | mapNames (storage : String)
  | containsMap (storage name : String)

inductive Reply
  | done
  | flag (value : Bool)
  | key (key : Key)
  | rows (rows : List (Except Error Row))
  | cursor (cursor : Cursor)
  | cost (cost : Double)
  | info (index : Index) (rows disk : UInt64)
  | text (text : String)
  | names (names : List String)

/-- Why there is no reply. -/
inductive Refusal
  | noIndex (name : String)
  | error (error : Error)
  deriving DecidableEq, Repr

/-- What a request leads to. -/
structure Response where
  reply : Except Refusal Reply
  database : Database
  log : List LogEntry

namespace Database

def empty : Database := ⟨.empty, [], []⟩

/-- The table of a name; a table that was never written to is empty. -/
def table (db : Database) (name : String) : Table :=
  (db.tables.find? fun t => t.name = name).getD (.empty name)

def setTable (db : Database) (t : Table) : Database :=
  { db with tables := t :: db.tables.filter fun other => other.name ≠ t.name }

def index? (db : Database) (name : String) : Option Index := db.indexes.lookup name

def setIndex (db : Database) (name : String) (ix : Index) : Database :=
  { db with indexes := (name, ix) :: db.indexes.filter fun other => other.1 ≠ name }

/-- Runs an operation on the catalog, and on success continues with its answer. -/
def operate {α : Type} (db : Database) (op : Operation α)
    (next : α → Database → Reply × Database) : Response :=
  let effect := op db.catalog
  let db := { db with catalog := effect.catalog }
  match effect.answer with
  | .error e => ⟨.error (.error e), db, effect.log⟩
  | .ok a =>
    let (reply, db) := next a db
    ⟨.ok reply, db, effect.log⟩

/-- A reply that needs no operation. -/
def reply (db : Database) (reply : Reply) : Response := ⟨.ok reply, db, []⟩

/-- Answers a request to the index `ix`, which has the given name. -/
def performOn (db : Database) (name : String) (ix : Index) : IndexRequest → Response
  | .close session => db.operate (ix.close session) fun ix db => (.done, db.setIndex name ix)
  | .markRebuilt => db.operate ix.markRebuilt fun ix db => (.done, db.setIndex name ix)
  | .setCost cost => (db.setIndex name { ix with cost }).reply .done
  | .add session row => db.operate (ix.add session row) fun _ db => (.done, db)
  | .put session row table =>
    db.operate (ix.add session row) fun _ db => (.done, db.setTable ((db.table table).put row))
  | .remove session row => db.operate (ix.remove session row) fun _ db => (.done, db)
  | .key row => db.operate (.ofExcept .decode (ix.key row)) fun key db => (.key key, db)
  | .find session =>
    db.operate (ix.find session) fun cursor db => (.rows (cursor.rows (db.table ix.table)), db)
  | .search session row =>
    db.operate (ix.search session row) fun cursor db =>
      (.rows (cursor.rows (db.table ix.table)), db)
  | .cursor session row => db.operate (ix.search session row) fun cursor db => (.cursor cursor, db)
  | .cost masks => db.reply (.cost (ix.scanCost masks))
  | .truncate session => db.operate (ix.truncate session) fun _ db => (.done, db)
  | .drop session => db.operate (ix.drop session) fun _ db => (.done, db)
  | .info => db.reply (.info ix (ix.rowCount db.catalog) ix.diskSpace)
  | .describe => db.reply (.text ix.describe)

/-- Answers a request. -/
def perform (db : Database) : Request → Response
  | .openIndex name session declaration table =>
    db.operate (session.openIndex declaration table) fun ix db => (.done, db.setIndex name ix)
  | .index name request =>
    match db.index? name with
    | some ix => db.performOn name ix request
    | none => ⟨.error (.noIndex name), db, []⟩
  | .insertRow table row => (db.setTable ((db.table table).put row)).reply .done
  | .deleteRow table row =>
    (db.setTable ((db.table table).erase row)).reply (.flag ((db.table table).contains row))
  | .mapNames storage => db.reply (.names (db.catalog.names (.named storage)))
  | .containsMap storage name => db.reply (.flag (db.catalog.contains (.named storage) name))

/-- The responses to a history, in order. -/
def run (db : Database) : List Request → List Response
  | [] => []
  | request :: requests =>
    let response := db.perform request
    response :: response.database.run requests

/-- The database after a history. -/
def after (db : Database) (requests : List Request) : Database :=
  requests.foldl (fun db request => (db.perform request).database) db

end Database

end GeometryIndex

import GeometryIndex.Key

/-!
# The log

What stores and indexes report while they work.  A log entry is what happened; its level, message
and fields are read off it.
-/

namespace GeometryIndex

inductive Level
  | trace
  | debug
  | info
  | error
  deriving DecidableEq, Repr

def Level.name : Level → String
  | .trace => "TRACE"
  | .debug => "DEBUG"
  | .info => "INFO"
  | .error => "ERROR"

inductive LogEntry
  | openedMap (map : String)
  | removedMap (map : String)
  | emptyOnReopen (index map : String)
  | openedIndex (index : String) (id : Int32) (table map : String)
      (persistent create needsRebuild : Bool)
  | rebuilt (index : String) (rows : UInt64)
  | add (index : String) (session : UInt64) (row : Int64)
  | remove (index : String) (session : UInt64) (row : Int64)
  | missingRow (index table : String) (row : Int64)
  | search (index : String) (session : UInt64) (box : Option KeyBox)
  | truncate (index : String) (session : UInt64)
  | drop (index : String) (session : UInt64) (map : String)
  | close (index : String) (session : UInt64)
  deriving DecidableEq, Repr

namespace LogEntry

def level : LogEntry → Level
  | .openedMap .. | .removedMap .. | .add .. | .remove .. | .search .. => .trace
  | .openedIndex .. | .truncate .. | .drop .. | .close .. => .debug
  | .emptyOnReopen .. | .rebuilt .. => .info
  | .missingRow .. => .error

def message : LogEntry → String
  | .openedMap .. => "opened in-memory spatial map"
  | .removedMap .. => "removed in-memory spatial map"
  | .emptyOnReopen .. => "spatial index map is empty on reopen, rebuild required"
  | .openedIndex .. => "opened spatial index"
  | .rebuilt .. => "spatial index rebuilt"
  | .add .. => "add"
  | .remove .. => "remove"
  | .missingRow .. => "row not found in spatial index"
  | .search .. => "find by geometry"
  | .truncate .. => "truncate spatial index"
  | .drop .. => "drop spatial index"
  | .close .. => "close spatial index"

/-- The names and texts of the fields. -/
def fields : LogEntry → List (String × String)
  | .openedMap map | .removedMap map => [("map", map)]
  | .emptyOnReopen index map => [("index", index), ("map", map)]
  | .openedIndex index id table map persistent create needsRebuild =>
    [("index", index), ("id", toString id), ("table", table), ("map", map),
      ("persistent", Text.truth persistent), ("create", Text.truth create),
      ("need_rebuild", Text.truth needsRebuild)]
  | .rebuilt index rows => [("index", index), ("rows", toString rows)]
  | .add index session row | .remove index session row =>
    [("index", index), ("session", toString session), ("row_id", toString row)]
  | .missingRow index table row => [("index", index), ("table", table), ("row_id", toString row)]
  | .search index session box =>
    [("index", index), ("session", toString session),
      ("bounds", Text.optional (box.map KeyBox.describe))]
  | .truncate index session | .close index session =>
    [("index", index), ("session", toString session)]
  | .drop index session map =>
    [("index", index), ("session", toString session), ("map", map)]

end LogEntry

end GeometryIndex

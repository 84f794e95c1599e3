import GeometryIndex.Key
import GeometryIndex.Table
import GeometryIndex.Text.Quoted

/-!
# Cursors

A cursor goes once, and forward only, over the keys that were found when it was opened.  It holds
keys and no rows: a row is looked up in the table as it is when the row is asked for.
-/

namespace GeometryIndex

structure Cursor where
  /-- The keys still to come. -/
  rest : List Key
  /-- The key the cursor stands on; none before the first and after the last. -/
  current : Option Key
  /-- The name of the table. -/
  table : String
  /-- The session that opened the cursor. -/
  session : UInt64
  deriving DecidableEq, Repr

namespace Cursor

/-- A cursor before the first of the given keys. -/
def start (keys : List Key) (table : String) (session : UInt64) : Cursor :=
  ⟨keys, none, table, session⟩

/-- The cursor on the next key, or past the last one. -/
def advance (c : Cursor) : Cursor := { c with rest := c.rest.tail, current := c.rest.head? }

/-- Whether the cursor stands on a key. -/
def isPositioned (c : Cursor) : Bool := c.current.isSome

/-- A cursor never goes back: it stays, and says so. -/
def previous (c : Cursor) : Bool × Cursor := (false, c)

/-- The row of the current key. -/
def row (c : Cursor) (t : Table) : Except Error Row :=
  match c.current with
  | some key => t.row key.row
  | none => .error (.integrity (.unpositioned c.table))

/-- The next key's row, if there is another key, and the cursor on it. -/
def next (c : Cursor) (t : Table) : Option (Except Error Row) × Cursor :=
  let c := c.advance
  (if c.isPositioned then some (c.row t) else none, c)

/-- The rows of all keys to come. -/
def rows (c : Cursor) (t : Table) : List (Except Error Row) := c.rest.map fun key => t.row key.row

def describe (c : Cursor) : String :=
  Text.record "SpatialCursor"
    [("table", Text.quoted c.table), ("session", toString c.session),
      ("current", Text.optional (c.current.map Key.describe))]

end Cursor

end GeometryIndex

import GeometryIndex.Value

/-!
# Tables

A table finds rows by id.  An id belongs to one row at most.
-/

namespace GeometryIndex

structure Table where
  name : String
  rows : List Row
  deriving DecidableEq, Repr

namespace Table

def empty (name : String) : Table := ⟨name, []⟩

/-- The row of an id. -/
def row (t : Table) (id : Int64) : Except Error Row :=
  match t.rows.find? fun row => row.id = id with
  | some row => .ok row
  | none => .error (.rowNotFound id)

def contains (t : Table) (id : Int64) : Bool := t.rows.any fun row => row.id = id

def erase (t : Table) (id : Int64) : Table :=
  { t with rows := t.rows.filter fun row => row.id ≠ id }

/-- The table with a row, in place of the one of the same id. -/
def put (t : Table) (row : Row) : Table :=
  let others := t.erase row.id
  { others with rows := row :: others.rows }

end Table

end GeometryIndex

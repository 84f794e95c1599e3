import GeometryIndex.Error

/-!
# Declarations of indexes

A declaration says what an index is to be.  `Declaration.column` lists the rules in the order in
which they are checked, and gives the one column of a declaration that meets them all.
-/

namespace GeometryIndex

structure Declaration where
  id : Int32
  name : String
  columns : List IndexedColumn
  unique : Bool := false
  /-- The index lives in the store of the database, and not only as long as its handle. -/
  persistent : Bool := true
  /-- The index is being created, and not opened again. -/
  create : Bool := true
  deriving DecidableEq, Repr

namespace Declaration

/-- The name of the map behind the index.  Persistent ones are told apart by their id. -/
def mapName (d : Declaration) : String :=
  if d.persistent then s!"RTREE_{d.id}" else "spatialIndex"

/-- Refuses a declaration that has a fault. -/
def refuse (fault : DeclarationFault) (present : Bool) : Except DeclarationFault Unit :=
  if present then .error fault else .ok ()

/-- The only column of the declaration. -/
def only : List IndexedColumn → Except DeclarationFault IndexedColumn
  | [] => .error .noColumn
  | [column] => .ok column
  | _ => .error .manyColumns

/-- The indexed column of an acceptable declaration.  While the database is `starting`, the types of
columns may not be known yet and are not looked at. -/
def column (d : Declaration) (starting : Bool) : Except DeclarationFault IndexedColumn := do
  refuse .unique d.unique
  refuse .reopenedEphemeral (!d.persistent && !d.create)
  let column ← only d.columns
  refuse .descending (column.sort.contains .descending)
  refuse .nullsFirst (column.sort.contains .nullsFirst)
  refuse .nullsLast (column.sort.contains .nullsLast)
  refuse (.notGeometry column.column) (!starting && decide (column.column.type ≠ .geometry))
  refuse (.negativeId d.id) (d.persistent && decide (d.id < 0))
  return column

end Declaration

end GeometryIndex

/-!
# Columns

A column has a position, a name and a declared type; an indexed column has sort flags as well.
-/

namespace GeometryIndex

/-- The declared type of a column, and the type of a value. -/
inductive ValueType
  | null
  | int
  | double
  | varchar
  | binary
  | geometry
  deriving DecidableEq, Repr

namespace ValueType

def all : List ValueType := [.null, .int, .double, .varchar, .binary, .geometry]

def name : ValueType → String
  | .null => "Null"
  | .int => "Int"
  | .double => "Double"
  | .varchar => "Varchar"
  | .binary => "Binary"
  | .geometry => "Geometry"

def ofName? (name : String) : Option ValueType := all.find? fun type => type.name == name

/-- The type's name in a table definition. -/
def sqlName : ValueType → String
  | .null => "NULL"
  | .int => "BIGINT"
  | .double => "DOUBLE PRECISION"
  | .varchar => "CHARACTER VARYING"
  | .binary => "BINARY VARYING"
  | .geometry => "GEOMETRY"

end ValueType

/-- Sort flags, one bit each. -/
structure SortFlags where
  bits : UInt8
  deriving DecidableEq, Repr

namespace SortFlags

def ascending : SortFlags := ⟨0⟩

def descending : SortFlags := ⟨1⟩

def nullsFirst : SortFlags := ⟨2⟩

def nullsLast : SortFlags := ⟨4⟩

/-- Whether the two have a flag in common. -/
def contains (flags flag : SortFlags) : Bool := flags.bits &&& flag.bits != 0

/-- All flags of both. -/
def union (flags flag : SortFlags) : SortFlags := ⟨flags.bits ||| flag.bits⟩

end SortFlags

/-- A column of a table; `id` is its position in a row. -/
structure Column where
  id : UInt64
  name : String
  type : ValueType
  deriving DecidableEq, Repr

/-- The definition of a column.  The name stands between quotes as it is. -/
def Column.sql (column : Column) : String := "\"" ++ column.name ++ "\" " ++ column.type.sqlName

structure IndexedColumn where
  column : Column
  sort : SortFlags := .ascending
  deriving DecidableEq, Repr

end GeometryIndex

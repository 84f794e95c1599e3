import GeometryIndex.Declaration
import GeometryIndex.Geometry.Dimensions
import GeometryIndex.Json.Reader
import GeometryIndex.Key

/-!
# The JSON form of the declared types

A record is written as an object with its fields in order.  It is read from an object, in which
every field stands once and names that are no fields are passed over, or from an array with a value
for each field in order.  A choice is written as its name, and may also be read from an object whose
only member is that name with null.
-/

namespace GeometryIndex.Json

/-! ### Readers -/

def bool? : Json → Option Bool
  | .bool b => some b
  | _ => none

def string? : Json → Option String
  | .string text => text
  | _ => none

/-- An integer from `least` to `greatest`. -/
def integer? (least greatest : Int) : Json → Option Int
  | .number n => n.integer?.filter fun v => decide (least ≤ v ∧ v ≤ greatest)
  | _ => none

def byte? (v : Json) : Option UInt8 := (v.integer? 0 255).map fun n => UInt8.ofNat n.toNat

/-- An integer of 32 bits with a sign. -/
def int32? (v : Json) : Option Int32 :=
  (v.integer? Int32.minValue.toInt Int32.maxValue.toInt).map Int32.ofInt

/-- An integer of 64 bits with a sign. -/
def int64? (v : Json) : Option Int64 :=
  (v.integer? Int64.minValue.toInt Int64.maxValue.toInt).map Int64.ofInt

/-- An integer of 64 bits without a sign. -/
def word? (v : Json) : Option UInt64 :=
  (v.integer? 0 (UInt64.size - 1)).map fun n => UInt64.ofNat n.toNat

def double? : Json → Option Double
  | .number n => n.double?
  | _ => none

/-- A single, which becomes infinite if it is too large for one but not for a double. -/
def single? : Json → Option Single
  | .number n => n.single?
  | _ => none

def list? {α : Type} (item? : Json → Option α) : Json → Option (List α)
  | .array items => items.mapM item?
  | _ => none

/-- The name of a choice. -/
def choice? : Json → Option String
  | .string text => text
  | .object [(name, .null)] => name
  | _ => none

/-- The value of the only member of a name, if there is one; fails if there are more. -/
def member? (members : List (String × Json)) (name : String) : Option (Option Json) :=
  match members.filter fun member => member.1 = name with
  | [] => some none
  | [member] => some (some member.2)
  | _ => none

/-- The values of the fields of a record, in the order of the given names. -/
def fields? (names : List String) : Json → Option (List (Option Json))
  | .object members => do
    let members ← members.mapM fun member => member.1.map fun name => (name, member.2)
    names.mapM (member? members)
  | .array values => if values.length = names.length then some (values.map some) else none
  | _ => none

/-- A value that is absent if it is null or not there. -/
def optional? {α : Type} (read? : Json → Option α) : Option Json → Option (Option α)
  | none => some none
  | some .null => some none
  | some v => (read? v).map some

/-! ### Numbers -/

/-- A truth value. -/
def writeBool (b : Bool) : String := if b then "true" else "false"

def writeDouble (x : Double) : String := Layout.jsonDouble.write x

def writeSingle (x : Single) : String := Layout.jsonSingle.write x

/-! ### Boxes -/

def boxFields : List String := ["min_x", "max_x", "min_y", "max_y"]

/-- A box whose bounds are read by `bound?`.  Their order is not looked at. -/
def box? {f : Format} (bound? : Json → Option (Binary f)) (v : Json) : Option (Box f) :=
  match v.fields? boxFields with
  | some [some minX, some maxX, some minY, some maxY] => do
    return ⟨← bound? minX, ← bound? maxX, ← bound? minY, ← bound? maxY⟩
  | _ => none

def writeBox {f : Format} (bound : Binary f → String) (b : Box f) : String :=
  writeObject (boxFields.zip [bound b.minX, bound b.maxX, bound b.minY, bound b.maxY])

end GeometryIndex.Json

namespace GeometryIndex

open Json

namespace Envelope

def ofJson? (v : Json) : Option Envelope := v.box? Json.double?

def toJson (e : Envelope) : String := writeBox writeDouble e

end Envelope

namespace Key

def ofJson? (v : Json) : Option Key :=
  match v.fields? ["row_id", "bounds"] with
  | some [some row, box] => do
    return ⟨← row.int64?, ← optional? (Json.box? Json.single?) box⟩
  | _ => none

def toJson (k : Key) : String :=
  writeObject
    [("row_id", toString k.row), ("bounds", k.box.elim "null" (writeBox writeSingle))]

end Key

namespace ValueType

def ofJson? (v : Json) : Option ValueType := v.choice?.bind ofName?

def toJson (type : ValueType) : String := writeString type.name

end ValueType

namespace Kind

def ofJson? (v : Json) : Option Kind := v.choice?.bind ofName?

def toJson (kind : Kind) : String := writeString kind.name

end Kind

namespace Dimensions

def ofJson? (v : Json) : Option Dimensions := v.byte?.map Dimensions.mk

def toJson (d : Dimensions) : String := toString d.bits

end Dimensions

namespace SortFlags

def ofJson? (v : Json) : Option SortFlags := v.byte?.map SortFlags.mk

def toJson (flags : SortFlags) : String := toString flags.bits

end SortFlags

namespace Column

def ofJson? (v : Json) : Option Column :=
  match v.fields? ["id", "name", "value_type"] with
  | some [some id, some name, some type] => do
    return ⟨← id.word?, ← name.string?, ← ValueType.ofJson? type⟩
  | _ => none

def toJson (c : Column) : String :=
  writeObject
    [("id", toString c.id), ("name", writeString c.name), ("value_type", c.type.toJson)]

end Column

namespace IndexedColumn

def ofJson? (v : Json) : Option IndexedColumn :=
  match v.fields? ["column", "sort_type"] with
  | some [some column, some sort] => do
    return ⟨← Column.ofJson? column, ← SortFlags.ofJson? sort⟩
  | _ => none

def toJson (c : IndexedColumn) : String :=
  writeObject [("column", c.column.toJson), ("sort_type", c.sort.toJson)]

end IndexedColumn

namespace Declaration

def ofJson? (v : Json) : Option Declaration :=
  match v.fields? ["id", "name", "columns", "unique", "persistent", "create"] with
  | some [some id, some name, some columns, some unique, some persistent, some create] => do
    return ⟨← id.int32?, ← name.string?, ← columns.list? IndexedColumn.ofJson?, ← unique.bool?,
      ← persistent.bool?, ← create.bool?⟩
  | _ => none

def toJson (d : Declaration) : String :=
  writeObject
    [("id", toString d.id), ("name", writeString d.name),
      ("columns", writeArray (d.columns.map IndexedColumn.toJson)), ("unique", writeBool d.unique),
      ("persistent", writeBool d.persistent), ("create", writeBool d.create)]

end Declaration

end GeometryIndex

import GeometryIndex.Box.Basic
import GeometryIndex.Text.Record

/-!
# Keys

A key is a row id with the row's envelope at single precision, if the row has one.  Keys are ordered
by id, then by box with the absent one first; two keys are equal in this order only if they are the
same.
-/

namespace GeometryIndex

structure Key where
  row : Int64
  box : Option KeyBox
  deriving DecidableEq, Repr

namespace Key

/-- The key of a row with the given envelope. -/
def ofEnvelope (row : Int64) (envelope : Option Envelope) : Key :=
  ⟨row, envelope.map Envelope.narrow⟩

/-- The key of a row without an envelope. -/
def ofRow (row : Int64) : Key := ⟨row, none⟩

def isNull (k : Key) : Bool := k.box.isNone

/-- Whether both keys have boxes that overlap or touch; their ids do not matter. -/
def intersects (a b : Key) : Bool := Box.overlap a.box b.box

/-- The order of optional boxes: absence comes first. -/
def orderBox : Option KeyBox → Option KeyBox → Ordering
  | none, none => .eq
  | none, some _ => .lt
  | some _, none => .gt
  | some a, some b => a.order b

/-- The order of row ids. -/
def orderRow (a b : Int64) : Ordering := if a < b then .lt else if a = b then .eq else .gt

def order (a b : Key) : Ordering := (orderRow a.row b.row).then (orderBox a.box b.box)

def equals (a b : Key) : Bool := decide (a.order b = .eq)

/-- The keys in ascending order. -/
def sort (keys : List Key) : List Key := keys.mergeSort fun a b => decide (a.order b ≠ .gt)

end Key

/-- The description of a box in messages. -/
def KeyBox.describe (b : KeyBox) : String :=
  let text (x : Single) : String := Layout.description.write x
  Text.record "KeyBox"
    [("min_x", text b.minX), ("max_x", text b.maxX), ("min_y", text b.minY), ("max_y", text b.maxY)]

/-- The description of a key in messages. -/
def Key.describe (k : Key) : String :=
  Text.record "SpatialKey"
    [("row_id", toString k.row), ("bounds", Text.optional (k.box.map KeyBox.describe))]

end GeometryIndex

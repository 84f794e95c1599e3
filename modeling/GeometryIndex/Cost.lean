import GeometryIndex.Column
import GeometryIndex.Number.Rounding

/-!
# The cost of a scan

A cost model estimates a scan from the predicates on the columns of a table, given as one mask for
each position, and the indexed columns.
-/

namespace GeometryIndex

abbrev CostModel : Type := (masks : List UInt32) → (columns : List IndexedColumn) → Double

namespace CostModel

/-- The bit of a mask that asks for overlap with a geometry. -/
def overlap : UInt32 := 16

/-- Whether the predicates on a column ask for overlap; without a mask, they ask for nothing. -/
def asksOverlap (masks : List UInt32) (column : IndexedColumn) : Bool :=
  masks.getD column.column.id.toNat 0 &&& overlap == overlap

/-- A whole number as a cost. -/
def whole (n : Nat) : Double := .ofParts false (Format.double.nearestRatio n 1)

/-- Two if every indexed column is asked for overlap, and beyond any bound otherwise. -/
def spatial : CostModel := fun masks columns =>
  if !columns.isEmpty && columns.all (asksOverlap masks) then whole 2 else .greatest

end CostModel

end GeometryIndex

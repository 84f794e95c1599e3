/-!
# Coordinate dimensions

The dimensions of a geometry beyond X and Y, as one byte: bit 0 stands for Z and bit 1 for M.
-/

namespace GeometryIndex

structure Dimensions where
  bits : UInt8
  deriving DecidableEq, Repr

namespace Dimensions

def ofFlags (z m : Bool) : Dimensions := ⟨(if z then 1 else 0) ||| (if m then 2 else 0)⟩

def xy : Dimensions := ofFlags false false

def hasZ (d : Dimensions) : Bool := d.bits &&& 1 != 0

def hasM (d : Dimensions) : Bool := d.bits &&& 2 != 0

@[simp] theorem hasZ_ofFlags (z m : Bool) : (ofFlags z m).hasZ = z := by
  cases z <;> cases m <;> rfl

@[simp] theorem hasM_ofFlags (z m : Bool) : (ofFlags z m).hasM = m := by
  cases z <;> cases m <;> rfl

end Dimensions

end GeometryIndex

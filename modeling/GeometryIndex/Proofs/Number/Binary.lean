import GeometryIndex.Number.Binary

/-!
# Numbers — sign and magnitude

A bit pattern is its sign and its magnitude, and nothing else (`Binary.ext_parts`); every magnitude
below the span occurs under either sign (`negative_ofParts`, `magnitude_ofParts`).  Hence the place
in the total order tells all patterns apart (`position_injective`), and that order is the order of
the places (`order_eq_compare`).
-/

namespace GeometryIndex

namespace Format

theorem span_pos (f : Format) : 0 < f.span := Nat.two_pow_pos _

theorem two_pow_width (f : Format) : Nat.pow 2 f.width = 2 * f.span := by
  rw [width, Nat.pow_eq, Nat.pow_succ, Nat.mul_comm]
  rfl

end Format

namespace Binary

variable {f : Format}

theorem toBits_lt (x : Binary f) : x.toBits < 2 * f.span := by
  rw [← f.two_pow_width]
  exact x.bits.isLt

theorem toBits_injective {x y : Binary f} (h : x.toBits = y.toBits) : x = y := by
  obtain ⟨bits⟩ := x
  obtain ⟨bits'⟩ := y
  exact congrArg mk (BitVec.eq_of_toNat_eq h)

theorem magnitude_lt (x : Binary f) : x.magnitude < f.span := Nat.mod_lt _ f.span_pos

theorem toBits_eq (x : Binary f) :
    x.toBits = if x.negative then f.span + x.magnitude else x.magnitude := by
  have hlt := x.toBits_lt
  by_cases hneg : f.span ≤ x.toBits
  · have hmod : x.magnitude = x.toBits - f.span := by
      rw [magnitude, Nat.mod_eq_sub_mod hneg, Nat.mod_eq_of_lt (by omega)]
    simp [negative, hneg]
    omega
  · have hmod : x.magnitude = x.toBits := Nat.mod_eq_of_lt (by omega)
    simp [negative, hneg, hmod]

/-- A number is its sign and its magnitude. -/
theorem ext_parts {x y : Binary f} (hsign : x.negative = y.negative)
    (hmagnitude : x.magnitude = y.magnitude) : x = y := by
  apply toBits_injective
  rw [toBits_eq x, toBits_eq y, hsign, hmagnitude]

theorem toBits_ofParts (negative : Bool) {m : Nat} (h : m < f.span) :
    (ofParts negative m : Binary f).toBits = if negative then f.span + m else m := by
  show BitVec.toNat (BitVec.ofNat f.width _) = _
  rw [BitVec.toNat_ofNat, Nat.mod_eq_of_lt]
  show _ < Nat.pow 2 f.width
  rw [f.two_pow_width]
  split <;> omega

@[simp] theorem negative_ofParts (negative : Bool) {m : Nat} (h : m < f.span) :
    (ofParts negative m : Binary f).negative = negative := by
  rw [Binary.negative, toBits_ofParts negative h]
  cases negative <;> simp [h]

@[simp] theorem magnitude_ofParts (negative : Bool) {m : Nat} (h : m < f.span) :
    (ofParts negative m : Binary f).magnitude = m := by
  rw [magnitude, toBits_ofParts negative h]
  cases negative <;> simp [Nat.mod_eq_of_lt h]

/-! ### The total order -/

theorem position_injective {x y : Binary f} (h : x.position = y.position) : x = y := by
  unfold position at h
  cases hx : x.negative <;> cases hy : y.negative <;> simp only [hx, hy] at h
  · exact ext_parts (hx.trans hy.symm) (by omega)
  · simp at h; omega
  · simp at h; omega
  · exact ext_parts (hx.trans hy.symm) (by simp at h; omega)

theorem order_eq_compare (x y : Binary f) : x.order y = compare x.position y.position := rfl

end Binary

end GeometryIndex

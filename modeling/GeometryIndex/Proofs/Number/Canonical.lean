import GeometryIndex.Proofs.Number.Rounding

/-!
# Numbers — comparison and the canonical form

Numbers are compared by rank, and a NaN with nothing.  The canonical form of a number has the same
rank and is a NaN exactly if the number is (`Binary.rank_canonical`, `Binary.isNaN_canonical`), so
it compares alike; numbers that are equal have one canonical form (`Binary.canonical_congr`).

* `Double.narrow_canonical_iff`: taken to single precision, a number and its canonical form are the
  same unless the number is the negative zero.
-/

namespace GeometryIndex

namespace Binary

variable {f g : Format} {x y : Binary f}

/-! ### Comparison -/

theorem atMost_iff : x.atMost y = true ↔ x.isNaN = false ∧ y.isNaN = false ∧ x.rank ≤ y.rank := by
  simp [atMost, ordered, and_assoc]

theorem below_iff : x.below y = true ↔ x.isNaN = false ∧ y.isNaN = false ∧ x.rank < y.rank := by
  simp [below, ordered, and_assoc]

theorem equals_iff : x.equals y = true ↔ x.isNaN = false ∧ y.isNaN = false ∧ x.rank = y.rank := by
  simp [equals, ordered, and_assoc]

theorem atMost_self : x.atMost x = true ↔ x.isNaN = false := by
  simp [atMost_iff]

/-- A number that is at most another one has none of it below. -/
theorem not_below_of_atMost (h : x.atMost y = true) : y.below x = false := by
  rw [Bool.eq_false_iff, Ne, below_iff]
  rintro ⟨-, -, hlt⟩
  exact absurd (atMost_iff.mp h).2.2 (Int.not_le.mpr hlt)

/-! ### The canonical form -/

theorem canonical_of_isNaN (h : x.isNaN = true) : x.canonical = nan := if_pos h

theorem canonical_of_zero (h : x.magnitude = 0) : x.canonical = zero := by
  have hnumber : x.isNaN = false := isNaN_eq_false.mpr (h ▸ Nat.zero_le _)
  simp [canonical, hnumber, h]

theorem canonical_of_nonzero (hnumber : x.isNaN = false) (h : x.magnitude ≠ 0) :
    x.canonical = x := by
  simp [canonical, hnumber, h]

theorem isNaN_nan (hf : 1 < f.binade) : (nan : Binary f).isNaN = true := by
  have hspan := f.infinity_add_binade
  have hquiet : 0 < f.quietBit ∧ f.quietBit < f.binade := by
    rw [Format.quietBit]
    omega
  rw [isNaN, nan, magnitude_ofParts _ (by omega), decide_eq_true_iff]
  omega

theorem magnitude_zero : (zero : Binary f).magnitude = 0 := magnitude_ofParts _ f.span_pos

theorem isNaN_canonical (hf : 1 < f.binade) (x : Binary f) : x.canonical.isNaN = x.isNaN := by
  cases hx : x.isNaN with
  | true => rw [canonical_of_isNaN hx, isNaN_nan hf]
  | false =>
    by_cases hzero : x.magnitude = 0
    · rw [canonical_of_zero hzero, isNaN_eq_false, magnitude_zero]
      exact Nat.zero_le _
    · rw [canonical_of_nonzero hx hzero, hx]

theorem canonical_canonical (hf : 1 < f.binade) (x : Binary f) :
    x.canonical.canonical = x.canonical := by
  cases hx : x.isNaN with
  | true => rw [canonical_of_isNaN hx, canonical_of_isNaN (isNaN_nan hf)]
  | false =>
    by_cases hzero : x.magnitude = 0
    · rw [canonical_of_zero hzero, canonical_of_zero magnitude_zero]
    · rw [canonical_of_nonzero hx hzero, canonical_of_nonzero hx hzero]

theorem rank_canonical (h : x.isNaN = false) : x.canonical.rank = x.rank := by
  by_cases hzero : x.magnitude = 0
  · rw [canonical_of_zero hzero, rank, rank, magnitude_zero, hzero]
    split <;> split <;> rfl
  · rw [canonical_of_nonzero h hzero]

/-- Equal numbers have one canonical form. -/
theorem canonical_congr (h : x.equals y = true) : x.canonical = y.canonical := by
  obtain ⟨hx, hy, hrank⟩ := equals_iff.mp h
  simp only [rank] at hrank
  by_cases hzero : x.magnitude = 0
  · have hyzero : y.magnitude = 0 := by
      split at hrank <;> split at hrank <;> omega
    rw [canonical_of_zero hzero, canonical_of_zero hyzero]
  · have hyzero : y.magnitude ≠ 0 := by
      split at hrank <;> split at hrank <;> omega
    rw [canonical_of_nonzero hx hzero, canonical_of_nonzero hy hyzero]
    cases hxneg : x.negative <;> cases hyneg : y.negative <;> simp [hxneg, hyneg] at hrank
    · exact ext_parts (hxneg.trans hyneg.symm) hrank
    · omega
    · omega
    · exact ext_parts (hxneg.trans hyneg.symm) hrank

theorem atMost_canonical (hf : 1 < f.binade) (x y : Binary f) :
    x.canonical.atMost y.canonical = x.atMost y := by
  rw [Bool.eq_iff_iff, atMost_iff, atMost_iff, isNaN_canonical hf, isNaN_canonical hf]
  refine and_congr_right fun hx => and_congr_right fun hy => ?_
  rw [rank_canonical hx, rank_canonical hy]

theorem below_canonical (hf : 1 < f.binade) (x y : Binary f) :
    x.canonical.below y.canonical = x.below y := by
  rw [Bool.eq_iff_iff, below_iff, below_iff, isNaN_canonical hf, isNaN_canonical hf]
  refine and_congr_right fun hx => and_congr_right fun hy => ?_
  rw [rank_canonical hx, rank_canonical hy]

/-- The zero of negative sign. -/
def negativeZero : Binary f := ofParts true 0

theorem eq_negativeZero_iff : x = negativeZero ↔ x.negative = true ∧ x.magnitude = 0 := by
  constructor
  · rintro rfl
    exact ⟨negative_ofParts _ f.span_pos, magnitude_ofParts _ f.span_pos⟩
  · rintro ⟨hsign, hmagnitude⟩
    refine ext_parts (hsign.trans ?_) (hmagnitude.trans ?_)
    · exact (negative_ofParts _ f.span_pos).symm
    · exact (magnitude_ofParts _ f.span_pos).symm

/-- The canonical form of a number differs from it only at the negative zero. -/
theorem canonical_of_ne_negativeZero (hnumber : x.isNaN = false) (h : x ≠ negativeZero) :
    x.canonical = x := by
  by_cases hzero : x.magnitude = 0
  · have hsign : x.negative = false := by
      rw [Bool.eq_false_iff]
      exact fun hneg => h (eq_negativeZero_iff.mpr ⟨hneg, hzero⟩)
    rw [canonical_of_zero hzero]
    exact ext_parts ((negative_ofParts _ f.span_pos).trans hsign.symm)
      (magnitude_zero.trans hzero.symm)
  · exact canonical_of_nonzero hnumber hzero

end Binary

/-! ### Doubles -/

namespace Double

theorem one_lt_binade : 1 < Format.double.binade := by decide

/-- Rounding keeps the sign of a zero, which the canonical form forgets. -/
theorem narrow_canonical_iff {x : Double} (h : x.isNaN = false) :
    narrow x.canonical = narrow x ↔ x ≠ Binary.negativeZero := by
  constructor
  · rintro heq rfl
    have hsign := congrArg Binary.negative heq
    simp only [narrow] at hsign
    rw [Binary.negative_convert h, Binary.negative_convert (by decide)] at hsign
    exact absurd hsign (by decide)
  · intro hne
    rw [Binary.canonical_of_ne_negativeZero h hne]

end Double

end GeometryIndex

import GeometryIndex.Proofs.Number.Canonical

/-!
# Numbers — widening

One format fits into another (`Format.Fits`) if the other keeps at least as many digits and its
exponents reach further on either side.  Every number of the first then has its own value in the
second: a number of few digits has one however far up its exponent is (`Format.exists_units_eq`),
and subnormal numbers have no more digits than others.

* `Format.Fits.units_convert`: so taking a number to the wider format is exact;
* `Format.Fits.convert_convert`: taking it back gives the same bits;
* `Format.Fits.atMost_convert`: and numbers compare in the wider format as they did before;
* `Single.narrow_widen`, `Single.atMost_widen`: the same for singles and doubles.
-/

namespace GeometryIndex

namespace Format

variable {f g : Format} {n d m r k : Nat}

/-! ### Values that a format has -/

/-- A value that a format has is rounded to its own magnitude. -/
theorem nearest_of_units (hf : 0 < f.fractionBits) (hd : 0 < d) (hm : m ≤ f.infinity)
    (hn : n = f.units m * d) : f.nearest n d = m := by
  have hclosest := (f.nearest_isNearest hf n hd).closest m hm
  have hsame : f.units (f.nearest n d) * d = f.units m * d := by
    rw [hn] at hclosest ⊢
    simp only [error] at hclosest
    omega
  exact f.units_strictMono.injective (Nat.mul_right_cancel hd hsame)

/-- A number of few enough digits is the value of a magnitude, as soon as its exponent is one that
normal numbers have. -/
theorem exists_units_eq (hr : r < 2 * f.binade) (hk : f.fractionBits ≤ k) :
    ∃ p, p < (k + 2) * f.binade ∧ f.units p = r * 2 ^ k := by
  rcases Nat.eq_zero_or_pos r with rfl | hpos
  · refine ⟨0, Nat.mul_pos (Nat.succ_pos _) f.binade_pos, ?_⟩
    simp [units]
  · -- Digits move from the exponent into the fraction until the leading one is in its place.
    have hlog : r.log2 ≤ f.fractionBits := by
      refine Nat.le_of_lt_succ ((Nat.log2_lt hpos.ne').mpr ?_)
      rw [Nat.pow_succ']
      exact hr
    let t := f.fractionBits - r.log2
    have hkept : f.binade ≤ r * 2 ^ t :=
      calc f.binade = 2 ^ r.log2 * 2 ^ t := by rw [← Nat.pow_add, Nat.add_sub_of_le hlog]; rfl
        _ ≤ r * 2 ^ t := Nat.mul_le_mul_right _ (Nat.log2_self_le hpos.ne')
    have hcarry : r * 2 ^ t < 2 * f.binade :=
      calc r * 2 ^ t < 2 ^ (r.log2 + 1) * 2 ^ t :=
            Nat.mul_lt_mul_of_pos_right Nat.lt_log2_self (Nat.two_pow_pos t)
        _ = 2 ^ (f.fractionBits + 1) := by rw [← Nat.pow_add]; congr 1; omega
        _ = 2 * f.binade := Nat.pow_succ'
    refine ⟨(k - t) * f.binade + r * 2 ^ t, ?_, ?_⟩
    · calc (k - t) * f.binade + r * 2 ^ t < (k - t) * f.binade + 2 * f.binade :=
            Nat.add_lt_add_left hcarry _
        _ = (k - t + 2) * f.binade := (Nat.add_mul _ _ _).symm
        _ ≤ (k + 2) * f.binade := Nat.mul_le_mul_right _ (by omega)
    · rw [units_scaled hcarry.le (.inr hkept), Nat.mul_assoc, ← Nat.pow_add]
      congr 2
      omega

/-! ### A format inside another -/

/-- The finite numbers of a format are finite numbers of another one as well: it keeps at least as
many digits, and its exponents reach further down and up. -/
structure Fits (f g : Format) : Prop where
  digits : f.fractionBits ≤ g.fractionBits
  low : f.leastScale + g.fractionBits ≤ g.leastScale
  high : Nat.pow 2 f.exponentBits + g.leastScale < Nat.pow 2 g.exponentBits + f.leastScale

/-- The exponent of a finite number is below that of infinity. -/
theorem scale_lt (h : k * f.binade + r < f.infinity) (hk : k = 0 ∨ f.binade ≤ r) :
    k + 2 ≤ Nat.pow 2 f.exponentBits := by
  rw [infinity] at h
  rcases hk with rfl | hr
  · have hpos : 0 < Nat.pow 2 f.exponentBits - 1 := Nat.pos_of_mul_pos_right (Nat.zero_lt_of_lt h)
    omega
  · have hlt : (k + 1) * f.binade < (Nat.pow 2 f.exponentBits - 1) * f.binade := by
      rw [Nat.succ_mul]
      omega
    have := Nat.lt_of_mul_lt_mul_right hlt
    omega

namespace Fits

/-- **Every finite value of the narrower format is one of the wider format.** -/
theorem exists_units_eq (h : f.Fits g) (hm : m < f.infinity) :
    ∃ p, p < g.infinity ∧ g.units p * f.one = f.units m * g.one := by
  obtain ⟨digits, low, high⟩ := h
  obtain ⟨s, r, rfl, hr, hs⟩ := f.exists_scaled m
  have hscale := scale_lt hm hs
  have hbinade : f.binade ≤ g.binade := Nat.pow_le_pow_right (by decide) digits
  obtain ⟨p, hp, hvalue⟩ := Format.exists_units_eq (f := g) (r := r)
    (k := s + (g.leastScale - f.leastScale)) (by omega) (by omega)
  refine ⟨p, hp.trans_le (Nat.mul_le_mul_right _ (by omega)), ?_⟩
  have hone : g.one = 2 ^ (g.leastScale - f.leastScale) * f.one := by
    show 2 ^ g.leastScale = _ * 2 ^ f.leastScale
    rw [← Nat.pow_add, Nat.sub_add_cancel (by omega)]
  rw [hvalue, units_scaled hr.le hs, hone, Nat.pow_add]
  ring

/-- **The magnitude in the wider format has the same value.** -/
theorem units_convert (h : f.Fits g) (hg : 0 < g.fractionBits) (hm : m < f.infinity) :
    Binary.convertMagnitude f g m < g.infinity ∧
      g.units (Binary.convertMagnitude f g m) * f.one = f.units m * g.one := by
  obtain ⟨p, hp, hvalue⟩ := h.exists_units_eq hm
  have hconvert : Binary.convertMagnitude f g m = p := by
    rw [Binary.convertMagnitude, if_neg hm.ne]
    exact nearest_of_units hg (Nat.two_pow_pos _) hp.le hvalue.symm
  rw [hconvert]
  exact ⟨hp, hvalue⟩

/-- So rounding it back to the narrower format changes nothing. -/
theorem convertMagnitude_convertMagnitude (h : f.Fits g) (hf : 0 < f.fractionBits)
    (hm : m ≤ f.infinity) :
    Binary.convertMagnitude g f (Binary.convertMagnitude f g m) = m := by
  rcases hm.eq_or_lt with rfl | hlt
  · rw [Binary.convertMagnitude, Binary.convertMagnitude, if_pos rfl, if_pos rfl]
  · obtain ⟨hfinite, hvalue⟩ := h.units_convert (hf.trans_le h.digits) hlt
    rw [Binary.convertMagnitude, if_neg hfinite.ne]
    exact nearest_of_units hf (Nat.two_pow_pos _) hm hvalue

variable {x y : Binary f}

/-- **A number taken to the wider format and back is the same bit for bit**, unless it is a NaN. -/
theorem convert_convert (h : f.Fits g) (hf : 0 < f.fractionBits) (hx : x.isNaN = false) :
    (x.convert : Binary g).convert = x := by
  have hwide : (x.convert : Binary g).isNaN = false := Binary.isNaN_convert hx
  apply Binary.ext_parts
  · rw [Binary.negative_convert hwide, Binary.negative_convert hx]
  · rw [Binary.magnitude_convert hwide, Binary.magnitude_convert hx]
    exact h.convertMagnitude_convertMagnitude hf (Binary.isNaN_eq_false.mp hx)

/-- **Numbers compare in the wider format as they did before**, NaNs included. -/
theorem atMost_convert (h : f.Fits g) (hf : 0 < f.fractionBits) (hf' : f.infinity ≠ 0)
    (hg' : g.infinity ≠ 0) (x y : Binary f) :
    (x.convert : Binary g).atMost y.convert = x.atMost y := by
  have hg : 0 < g.fractionBits := hf.trans_le h.digits
  rw [Bool.eq_iff_iff]
  refine ⟨fun hwide => ?_, Binary.convert_atMost hf' hg⟩
  -- What has no NaN in the wider format had none before, so both numbers can be taken back.
  have number : ∀ {z : Binary f}, (z.convert : Binary g).isNaN = false → z.isNaN = false := by
    intro z hz
    by_contra hnan
    rw [Bool.not_eq_false] at hnan
    rw [(Binary.convert_roundsTo hg z).nan hnan] at hz
    cases hz
  obtain ⟨hx, hy, -⟩ := Binary.atMost_iff.mp hwide
  have hback := Binary.convert_atMost (g := f) hg' hf hwide
  rwa [h.convert_convert hf (number hx), h.convert_convert hf (number hy)] at hback

end Fits

end Format

/-! ### Singles -/

namespace Single

theorem fits_double : Format.single.Fits .double := ⟨by decide, by decide, by decide⟩

theorem narrow_widen {x : Single} (h : x.isNaN = false) : x.widen.narrow = x :=
  fits_double.convert_convert (by decide) h

theorem atMost_widen (x y : Single) : x.widen.atMost y.widen = x.atMost y :=
  fits_double.atMost_convert (by decide) (by decide) (by decide) x y

end Single

end GeometryIndex

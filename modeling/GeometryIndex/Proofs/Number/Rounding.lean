import GeometryIndex.Number.Rounding
import GeometryIndex.Proofs.Number.Binary
import Mathlib.Order.Monotone.Basic
import Mathlib.Tactic.Ring

/-!
# Numbers — rounding to nearest

`f.IsNearest n d m` says that among the magnitudes of a format `m` has the value nearest to `n / d`
units, and is even if another one is as near.  Infinity takes part with the value that the next
magnitude would have, which is the rule of IEEE 754 for what overflows.

* `Format.nearest_isNearest`: rounding is to nearest, ties to even;
* `Format.nearest_mono`: hence it never turns the order of two numbers around;
* `Binary.convert_spec`, `Binary.convert_atMost`: the same for numbers with a sign.
-/

namespace GeometryIndex

/-! ### Integers -/

theorem le_roundHalfEven (n d : Nat) : n / d ≤ roundHalfEven n d := by
  simp only [roundHalfEven]
  split
  · exact Nat.le_refl _
  · split <;> omega

theorem roundHalfEven_le (n d : Nat) : roundHalfEven n d ≤ n / d + 1 := by
  simp only [roundHalfEven]
  split
  · exact Nat.le_succ _
  · split <;> omega

/-- An integer rounded to is off by half a unit at most, and even if it is off by just that. -/
theorem roundHalfEven_spec {n d : Nat} (hd : 0 < d) :
    2 * (roundHalfEven n d * d) ≤ 2 * n + d ∧ 2 * n ≤ 2 * (roundHalfEven n d * d) + d ∧
      (2 * (roundHalfEven n d * d) = 2 * n + d ∨ 2 * n = 2 * (roundHalfEven n d * d) + d →
        roundHalfEven n d % 2 = 0) := by
  have hdivision := Nat.div_add_mod n d
  have hmod := Nat.mod_lt n hd
  rw [Nat.mul_comm] at hdivision
  simp only [roundHalfEven]
  by_cases hdown : 2 * (n % d) < d
  · rw [if_pos hdown]
    omega
  · rw [if_neg hdown]
    by_cases hup : d < 2 * (n % d)
    · rw [if_pos hup, Nat.add_mul (n / d) 1 d, Nat.one_mul]
      omega
    · rw [if_neg hup]
      rcases Nat.mod_two_eq_zero_or_one (n / d) with hparity | hparity
      · rw [hparity, Nat.add_zero]
        omega
      · rw [hparity, Nat.add_mul (n / d) 1 d, Nat.one_mul]
        omega

namespace Format

variable {f : Format} {n d m : Nat}

/-! ### The values of magnitudes -/

theorem binade_pos (f : Format) : 0 < f.binade := Nat.two_pow_pos _

theorem infinity_add_binade (f : Format) : f.infinity + f.binade = f.span := by
  have hpos : 1 ≤ Nat.pow 2 f.exponentBits := Nat.two_pow_pos _
  have hspan : f.span = Nat.pow 2 f.exponentBits * f.binade := Nat.pow_add 2 _ _
  rw [hspan, infinity, ← Nat.succ_mul, Nat.succ_eq_add_one, Nat.sub_add_cancel hpos]

theorem infinity_lt_span (f : Format) : f.infinity < f.span := by
  have hsum := f.infinity_add_binade
  have hpos := f.binade_pos
  omega

theorem units_mul_add (f : Format) (exponent : Nat) {fraction : Nat}
    (h : fraction < f.binade) :
    f.units (exponent * f.binade + fraction) =
      if exponent = 0 then fraction else (f.binade + fraction) * 2 ^ (exponent - 1) := by
  have hdiv : (exponent * f.binade + fraction) / f.binade = exponent := by
    rw [Nat.mul_comm, Nat.mul_add_div f.binade_pos, Nat.div_eq_of_lt h, Nat.add_zero]
  have hmod : (exponent * f.binade + fraction) % f.binade = fraction := by
    rw [Nat.mul_comm, Nat.mul_add_mod, Nat.mod_eq_of_lt h]
  simp only [units, hdiv, hmod]
  rfl

/-- The value of a magnitude from the digits that are kept and the number of those that are not:
either none is dropped, or the first digit that is kept is set. -/
theorem units_scaled {s r : Nat} (hr : r ≤ 2 * f.binade) (hs : s = 0 ∨ f.binade ≤ r) :
    f.units (s * f.binade + r) = r * 2 ^ s := by
  have hpos := f.binade_pos
  by_cases hsmall : r < f.binade
  · obtain rfl : s = 0 := hs.resolve_right (by omega)
    rw [f.units_mul_add 0 hsmall, if_pos rfl, Nat.pow_zero, Nat.mul_one]
  · by_cases hcarry : r = 2 * f.binade
    · have hsum : s * f.binade + r = (s + 2) * f.binade + 0 := by rw [hcarry]; ring
      rw [hsum, f.units_mul_add (s + 2) hpos, if_neg (by omega), hcarry, Nat.add_zero,
        Nat.add_succ_sub_one, Nat.pow_succ]
      ring
    · have hsum : s * f.binade + r = (s + 1) * f.binade + (r - f.binade) := by
        rw [Nat.succ_mul]
        omega
      rw [hsum, f.units_mul_add (s + 1) (by omega), if_neg (by omega), Nat.add_sub_cancel,
        Nat.add_sub_of_le (by omega)]

theorem exists_scaled (f : Format) (m : Nat) :
    ∃ s r, m = s * f.binade + r ∧ r < 2 * f.binade ∧ (s = 0 ∨ f.binade ≤ r) := by
  have hdivision := Nat.div_add_mod m f.binade
  have hmod := Nat.mod_lt m f.binade_pos
  rw [Nat.mul_comm] at hdivision
  cases hexponent : m / f.binade with
  | zero =>
    rw [hexponent, Nat.zero_mul] at hdivision
    exact ⟨0, m, by omega, by omega, .inl rfl⟩
  | succ s =>
    rw [hexponent, Nat.succ_mul] at hdivision
    exact ⟨s, f.binade + m % f.binade, by omega, by omega, .inr (Nat.le_add_right _ _)⟩

/-- Magnitudes are in the order of their values. -/
theorem units_strictMono (f : Format) : StrictMono f.units := by
  refine strictMono_nat_of_lt_succ fun m => ?_
  obtain ⟨s, r, rfl, hr, hs⟩ := f.exists_scaled m
  rw [units_scaled (Nat.le_of_lt hr) hs, Nat.add_assoc,
    units_scaled hr (hs.imp_right Nat.le_succ_of_le)]
  exact Nat.mul_lt_mul_of_pos_right (Nat.lt_succ_self r) (Nat.two_pow_pos s)

/-! ### The nearest magnitude -/

/-- How far the value of a magnitude is from `n / d` units, times `d`. -/
def error (f : Format) (n d m : Nat) : Nat := ((f.units m * d : Nat) - (n : Int)).natAbs

/-- No magnitude is nearer to `n / d` units, and one as near only if this one is even. -/
structure IsNearest (f : Format) (n d m : Nat) : Prop where
  le : m ≤ f.infinity
  closest : ∀ other ≤ f.infinity, f.error n d m ≤ f.error n d other
  even : ∀ other ≤ f.infinity, f.error n d other = f.error n d m → other = m ∨ m % 2 = 0

/-- It is enough to compare with the two neighbours. -/
theorem isNearest_of_neighbours (hd : 0 < d) (hm : m ≤ f.infinity)
    (below : ∀ p, p + 1 = m → (f.units p + f.units m) * d ≤ 2 * n ∧
      ((f.units p + f.units m) * d = 2 * n → m % 2 = 0))
    (above : m < f.infinity → 2 * n ≤ (f.units m + f.units (m + 1)) * d ∧
      (2 * n = (f.units m + f.units (m + 1)) * d → m % 2 = 0)) :
    f.IsNearest n d m := by
  have hcompare : ∀ other ≤ f.infinity, other ≠ m →
      f.error n d m ≤ f.error n d other ∧
        (f.error n d other = f.error n d m → m % 2 = 0) := by
    intro other hother hne
    -- Values ascend with magnitudes, so the neighbour on either side is the nearest on that side.
    rcases Nat.lt_or_gt_of_ne hne with hlt | hgt
    · obtain ⟨p, rfl⟩ : ∃ p, m = p + 1 := ⟨m - 1, by omega⟩
      obtain ⟨hbound, heven⟩ := below p rfl
      have hle : f.units other * d ≤ f.units p * d :=
        Nat.mul_le_mul_right d (f.units_strictMono.monotone (Nat.le_of_lt_succ hlt))
      have hstrict : f.units other * d < f.units (p + 1) * d :=
        Nat.mul_lt_mul_of_pos_right (f.units_strictMono hlt) hd
      rw [Nat.add_mul] at hbound heven
      simp only [error]
      omega
    · obtain ⟨hbound, heven⟩ := above (by omega)
      have hle : f.units (m + 1) * d ≤ f.units other * d :=
        Nat.mul_le_mul_right d (f.units_strictMono.monotone hgt)
      have hstrict : f.units m * d < f.units other * d :=
        Nat.mul_lt_mul_of_pos_right (f.units_strictMono hgt) hd
      rw [Nat.add_mul] at hbound heven
      simp only [error]
      omega
  refine ⟨hm, fun other hother => ?_, fun other hother hequal => ?_⟩
  · by_cases hne : other = m
    · rw [hne]
    · exact (hcompare other hother hne).1
  · by_cases hne : other = m
    · exact .inl hne
    · exact .inr ((hcompare other hother hne).2 hequal)

/-- A magnitude that is nearest bounds the number from above by the middle to any greater one. -/
theorem IsNearest.le_middle (h : f.IsNearest n d m) (hd : 0 < d) {other : Nat} (hlt : m < other)
    (hother : other ≤ f.infinity) : 2 * n ≤ (f.units m + f.units other) * d := by
  have hclosest := h.closest other hother
  have hvalues := Nat.mul_lt_mul_of_pos_right (f.units_strictMono hlt) hd
  rw [Nat.add_mul]
  simp only [error] at hclosest
  omega

theorem IsNearest.middle_le (h : f.IsNearest n d m) (hd : 0 < d) {other : Nat}
    (hlt : other < m) : (f.units other + f.units m) * d ≤ 2 * n := by
  have hclosest := h.closest other (hlt.le.trans h.le)
  have hvalues := Nat.mul_lt_mul_of_pos_right (f.units_strictMono hlt) hd
  rw [Nat.add_mul]
  simp only [error] at hclosest
  omega

/-! ### Rounding -/

/-- The digits that rounding keeps, and how many it does not. -/
theorem nearest_eq (f : Format) (n : Nat) (hd : 0 < d) :
    ∃ s r, f.nearest n d = min (s * f.binade + r) f.infinity ∧
      r = roundHalfEven n (d * 2 ^ s) ∧ r ≤ 2 * f.binade ∧
      (s = 0 ∨ f.binade ≤ n / (d * 2 ^ s)) := by
  have hbinade : f.binade = 2 ^ f.fractionBits := rfl
  let s := (n / d).log2 - f.fractionBits
  have hscale : 0 < d * 2 ^ s := Nat.mul_pos hd (Nat.two_pow_pos s)
  -- What is kept has `fractionBits + 1` digits, or fewer if none is dropped.
  have hdigits : n / (d * 2 ^ s) < 2 * f.binade := by
    have hlog : n / d < 2 ^ (f.fractionBits + 1 + s) :=
      Nat.lt_of_lt_of_le Nat.lt_log2_self (Nat.pow_le_pow_right (by decide) (by omega))
    rw [← Nat.div_div_eq_div_mul, Nat.div_lt_iff_lt_mul (Nat.two_pow_pos s), hbinade,
      ← Nat.pow_succ', ← Nat.pow_add]
    exact hlog
  refine ⟨s, roundHalfEven n (d * 2 ^ s), rfl, rfl, ?_, ?_⟩
  · exact (roundHalfEven_le n _).trans hdigits
  · by_cases hs : s = 0
    · exact .inl hs
    · have hsum : (n / d).log2 = f.fractionBits + s := by omega
      have hne : n / d ≠ 0 := by
        intro hzero
        rw [hzero, Nat.log2_zero] at hsum
        omega
      have hlog := Nat.log2_self_le hne
      rw [hsum, Nat.pow_add, ← hbinade] at hlog
      rw [← Nat.div_div_eq_div_mul, Nat.le_div_iff_mul_le (Nat.two_pow_pos s)]
      exact .inr hlog

/-! Between `scaled_below` and `scaled_above`: `r` is what `n / d` units round to when `s` digits
are dropped, as `nearest_eq` gives it. -/

section Scaled

variable {s r : Nat}

theorem scaled_value (hcarry : r ≤ 2 * f.binade) (hkept : s = 0 ∨ f.binade ≤ r) :
    f.units (s * f.binade + r) * d = r * (d * 2 ^ s) := by
  rw [units_scaled hcarry hkept]
  ring

/-- The middle between the rounded number and its lower neighbour is not above the number. -/
theorem scaled_below (hd : 0 < d) (hr : r = roundHalfEven n (d * 2 ^ s))
    (hcarry : r ≤ 2 * f.binade) (hs : s = 0 ∨ f.binade ≤ n / (d * 2 ^ s)) {p : Nat}
    (hp : p + 1 = s * f.binade + r) :
    (f.units p + f.units (s * f.binade + r)) * d ≤ 2 * n ∧
      ((f.units p + f.units (s * f.binade + r)) * d = 2 * n → r % 2 = 0) := by
  have hscale : 0 < d * 2 ^ s := Nat.mul_pos hd (Nat.two_pow_pos s)
  obtain ⟨hlow, -, heven⟩ := roundHalfEven_spec (n := n) hscale
  rw [← hr] at hlow heven
  have hkept : s = 0 ∨ f.binade ≤ r := hs.imp_right fun h => h.trans (hr ▸ le_roundHalfEven n _)
  have hvalue := scaled_value (d := d) hcarry hkept
  have hlt : f.units p * d < f.units (s * f.binade + r) * d :=
    Nat.mul_lt_mul_of_pos_right (f.units_strictMono (by omega)) hd
  rw [Nat.add_mul, hvalue]
  rw [hvalue] at hlt
  by_cases hdown : r * (d * 2 ^ s) ≤ n
  · -- Rounded down: the middle below is below the rounded number, hence below the number.
    omega
  · -- Rounded up, so the neighbour has as many digits dropped, and is one less in what is kept.
    have hneighbour : f.units p * d + d * 2 ^ s = r * (d * 2 ^ s) := by
      have hpos : 1 ≤ r := by
        rcases Nat.eq_zero_or_pos r with rfl | hpos
        · simp at hdown
        · exact hpos
      have hkept' : s = 0 ∨ f.binade ≤ r - 1 := by
        refine hs.imp_right fun h => Nat.le_sub_one_of_lt (h.trans_lt ?_)
        exact (Nat.div_lt_iff_lt_mul hscale).mpr (by omega)
      obtain ⟨k, rfl⟩ : ∃ k, r = k + 1 := ⟨r - 1, by omega⟩
      obtain rfl : p = s * f.binade + k := by omega
      rw [units_scaled (by omega) (by simpa using hkept')]
      ring
    exact ⟨by omega, fun hequal => heven (.inl (by omega))⟩

/-- The middle between the rounded number and its upper neighbour is not below the number. -/
theorem scaled_above (hd : 0 < d) (hr : r = roundHalfEven n (d * 2 ^ s))
    (hcarry : r ≤ 2 * f.binade) (hkept : s = 0 ∨ f.binade ≤ r) :
    2 * n ≤ (f.units (s * f.binade + r) + f.units (s * f.binade + r + 1)) * d ∧
      (2 * n = (f.units (s * f.binade + r) + f.units (s * f.binade + r + 1)) * d →
        r % 2 = 0) := by
  have hpos := f.binade_pos
  obtain ⟨-, hhigh, heven⟩ := roundHalfEven_spec (n := n) (Nat.mul_pos hd (Nat.two_pow_pos s))
  rw [← hr] at hhigh heven
  have hone : (r + 1) * 2 ^ s ≤ f.units (s * f.binade + r + 1) := by
    by_cases hlast : r = 2 * f.binade
    · have hsum : s * f.binade + r + 1 = (s + 1) * f.binade + (f.binade + 1) := by
        rw [hlast]
        ring
      rw [hsum, units_scaled (by omega) (.inr (Nat.le_succ _)), Nat.pow_succ', ← Nat.mul_assoc]
      exact Nat.mul_le_mul_right _ (by omega)
    · rw [Nat.add_assoc, units_scaled (by omega) (hkept.imp_right Nat.le_succ_of_le)]
  have hneighbour : r * (d * 2 ^ s) + d * 2 ^ s ≤ f.units (s * f.binade + r + 1) * d :=
    calc r * (d * 2 ^ s) + d * 2 ^ s = (r + 1) * 2 ^ s * d := by ring
      _ ≤ f.units (s * f.binade + r + 1) * d := Nat.mul_le_mul_right d hone
  rw [Nat.add_mul, scaled_value hcarry hkept]
  exact ⟨by omega, fun hequal => heven (.inr (by omega))⟩

end Scaled

/-- **Rounding is to nearest, ties to even.** -/
theorem nearest_isNearest (f : Format) (hf : 0 < f.fractionBits) (n : Nat) (hd : 0 < d) :
    f.IsNearest n d (f.nearest n d) := by
  obtain ⟨s, r, hnearest, hr, hcarry, hs⟩ := f.nearest_eq n hd
  have hkept : s = 0 ∨ f.binade ≤ r := hs.imp_right fun h => h.trans (hr ▸ le_roundHalfEven n _)
  have hparity : r % 2 = 0 → (s * f.binade + r) % 2 = 0 := by
    intro heven
    obtain ⟨k, hk⟩ : 2 ∣ f.binade := Dvd.dvd.pow (dvd_refl 2) (Nat.ne_of_gt hf)
    rw [hk, Nat.mul_left_comm]
    omega
  rw [hnearest]
  by_cases hfits : s * f.binade + r ≤ f.infinity
  · rw [Nat.min_eq_left hfits]
    exact isNearest_of_neighbours hd hfits
      (fun p hp => (scaled_below hd hr hcarry hs hp).imp_right fun h hequal => hparity (h hequal))
      fun _ => (scaled_above hd hr hcarry hkept).imp_right fun h hequal => hparity (h hequal)
  · rw [Nat.min_eq_right (Nat.le_of_not_le hfits)]
    refine isNearest_of_neighbours hd (Nat.le_refl _) (fun p hp => ?_)
      fun h => absurd h (Nat.lt_irrefl _)
    -- The number is past infinity, whose neighbour is further off.
    obtain ⟨q, hq⟩ : ∃ q, q + 1 = s * f.binade + r := ⟨s * f.binade + r - 1, by omega⟩
    have hpast := (scaled_below hd hr hcarry hs hq).1
    have hinfinity : f.units f.infinity * d ≤ f.units q * d :=
      Nat.mul_le_mul_right d (f.units_strictMono.monotone (by omega))
    have hstrict : f.units p * d < f.units (s * f.binade + r) * d :=
      Nat.mul_lt_mul_of_pos_right (f.units_strictMono (by omega)) hd
    rw [Nat.add_mul] at hpast ⊢
    omega

/-- **Rounding preserves the order of numbers.** -/
theorem nearest_mono (f : Format) (hf : 0 < f.fractionBits) {n n' : Nat} (hd : 0 < d)
    (h : n ≤ n') : f.nearest n d ≤ f.nearest n' d := by
  by_contra hnot
  have hlt : f.nearest n' d < f.nearest n d := Nat.lt_of_not_le hnot
  have hleft := f.nearest_isNearest hf n hd
  have hright := f.nearest_isNearest hf n' hd
  -- Both numbers are the middle of the two values, hence the same number.
  have hbelow := hleft.middle_le hd hlt
  have habove := hright.le_middle hd hlt hleft.le
  obtain rfl : n = n' := by omega
  exact Nat.lt_irrefl _ hlt

theorem nearest_zero (f : Format) (d : Nat) : f.nearest 0 d = 0 := by
  simp [nearest, roundHalfEven]

end Format

/-! ### Numbers of another format -/

namespace Binary

variable {f g : Format}

/-- What IEEE 754 says of a number taken to another format: a NaN stays one, anything else keeps its
sign, infinity stays infinity, and a finite number becomes the one nearest to it. -/
structure RoundsTo (x : Binary f) (y : Binary g) : Prop where
  nan : x.isNaN = true → y.isNaN = true
  sign : x.isNaN = false → y.negative = x.negative
  infinite : x.isInfinite = true → y.isInfinite = true
  nearest : x.magnitude < f.infinity →
    g.IsNearest (f.units x.magnitude * g.one) f.one y.magnitude

/-- The magnitude that the magnitude of a number becomes. -/
def convertMagnitude (f g : Format) (m : Nat) : Nat :=
  if m = f.infinity then g.infinity else g.nearestRatio (f.units m) f.one

theorem convertMagnitude_le (f g : Format) (m : Nat) : convertMagnitude f g m ≤ g.infinity := by
  unfold convertMagnitude
  split
  · exact Nat.le_refl _
  · exact Nat.min_le_right _ _

theorem convertMagnitude_mono (hg : 0 < g.fractionBits) {m m' : Nat} (h : m ≤ m')
    (hm' : m' ≤ f.infinity) : convertMagnitude f g m ≤ convertMagnitude f g m' := by
  by_cases hinfinite : m' = f.infinity
  · have hright : convertMagnitude f g m' = g.infinity := if_pos hinfinite
    rw [hright]
    exact convertMagnitude_le f g m
  · have hleft : m ≠ f.infinity := by omega
    rw [convertMagnitude, convertMagnitude, if_neg hinfinite, if_neg hleft]
    exact g.nearest_mono hg (Nat.two_pow_pos _)
      (Nat.mul_le_mul_right _ (f.units_strictMono.monotone h))

theorem convertMagnitude_zero (hf : f.infinity ≠ 0) : convertMagnitude f g 0 = 0 := by
  have hunits : f.units 0 = 0 := by simp [Format.units]
  rw [convertMagnitude, if_neg hf.symm, Format.nearestRatio, hunits, Nat.zero_mul]
  exact g.nearest_zero _

theorem convert_of_not_nan {x : Binary f} (h : x.isNaN = false) :
    (x.convert : Binary g) = ofParts x.negative (convertMagnitude f g x.magnitude) := by
  by_cases hinfinite : x.magnitude = f.infinity
  · simp [convert, convertMagnitude, h, isInfinite, hinfinite]
  · simp [convert, convertMagnitude, h, isInfinite, hinfinite]

theorem negative_convert {x : Binary f} (h : x.isNaN = false) :
    (x.convert : Binary g).negative = x.negative := by
  rw [convert_of_not_nan h,
    negative_ofParts _ ((convertMagnitude_le f g _).trans_lt g.infinity_lt_span)]

theorem magnitude_convert {x : Binary f} (h : x.isNaN = false) :
    (x.convert : Binary g).magnitude = convertMagnitude f g x.magnitude := by
  rw [convert_of_not_nan h,
    magnitude_ofParts _ ((convertMagnitude_le f g _).trans_lt g.infinity_lt_span)]

theorem isNaN_eq_false {x : Binary f} : x.isNaN = false ↔ x.magnitude ≤ f.infinity := by
  simp [isNaN]

theorem isNaN_convert {x : Binary f} (h : x.isNaN = false) :
    (x.convert : Binary g).isNaN = false := by
  rw [isNaN_eq_false, magnitude_convert h]
  exact convertMagnitude_le f g _

/-- The fraction of a NaN is not lost entirely, and fits. -/
theorem convertPayload_bounds (hg : 0 < g.fractionBits) {fraction : Nat}
    (h : fraction < f.binade) :
    0 < convertPayload f g fraction ∧ convertPayload f g fraction < g.binade := by
  obtain ⟨k, hk⟩ : ∃ k, g.fractionBits = k + 1 := ⟨g.fractionBits - 1, by omega⟩
  have hbinade : g.binade = 2 ^ (k + 1) := by rw [Format.binade, hk]; rfl
  have hquiet : g.quietBit = 2 ^ k := by
    rw [Format.quietBit, hbinade, Nat.pow_succ, Nat.mul_div_cancel _ (by decide)]
  have hkept : fraction * g.binade / f.binade < g.binade :=
    Nat.div_lt_of_lt_mul (Nat.mul_lt_mul_of_pos_right h g.binade_pos)
  refine ⟨Nat.lt_of_lt_of_le ?_ Nat.right_le_or, ?_⟩
  · rw [hquiet]
    exact Nat.two_pow_pos k
  · rw [convertPayload, hquiet]
    rw [hbinade] at hkept ⊢
    exact Nat.or_lt_two_pow hkept (Nat.pow_lt_pow_right (by decide) (Nat.lt_succ_self k))

/-- **Conversion is the rounding of IEEE 754**, to nearest with ties to even. -/
theorem convert_roundsTo (hg : 0 < g.fractionBits) (x : Binary f) :
    x.RoundsTo (x.convert : Binary g) where
  nan h := by
    have hlt : f.infinity < x.magnitude := by simpa [isNaN] using h
    have hfraction : x.magnitude - f.infinity < f.binade := by
      have hspan := x.magnitude_lt
      rw [← f.infinity_add_binade] at hspan
      omega
    obtain ⟨hpos, hfits⟩ := convertPayload_bounds hg hfraction
    have hspan := g.infinity_add_binade
    rw [convert, if_pos h, isNaN, magnitude_ofParts _ (by omega), decide_eq_true_iff]
    exact Nat.lt_add_of_pos_right hpos
  sign h := negative_convert h
  infinite h := by
    have hmagnitude : x.magnitude = f.infinity := by simpa [isInfinite] using h
    rw [isInfinite, magnitude_convert (isNaN_eq_false.mpr hmagnitude.le), decide_eq_true_iff]
    exact if_pos hmagnitude
  nearest h := by
    have hvalue : convertMagnitude f g x.magnitude = g.nearestRatio (f.units x.magnitude) f.one :=
      if_neg (Nat.ne_of_lt h)
    rw [magnitude_convert (isNaN_eq_false.mpr h.le), hvalue]
    exact g.nearest_isNearest hg _ (Nat.two_pow_pos _)

/-- **Conversion preserves the order of numbers**, whatever their signs. -/
theorem convert_atMost (hf : f.infinity ≠ 0) (hg : 0 < g.fractionBits) {x y : Binary f}
    (h : x.atMost y = true) : (x.convert : Binary g).atMost y.convert = true := by
  simp only [atMost, ordered, Bool.and_eq_true, Bool.not_eq_true', decide_eq_true_iff] at h ⊢
  obtain ⟨⟨hx, hy⟩, hrank⟩ := h
  refine ⟨⟨isNaN_convert hx, isNaN_convert hy⟩, ?_⟩
  simp only [rank, negative_convert hx, negative_convert hy, magnitude_convert hx,
    magnitude_convert hy] at hrank ⊢
  have hxfits := isNaN_eq_false.mp hx
  have hyfits := isNaN_eq_false.mp hy
  cases hxneg : x.negative with
  | false =>
    cases hyneg : y.negative with
    | false =>
      have hle : x.magnitude ≤ y.magnitude := by simpa [hxneg, hyneg] using hrank
      simpa using convertMagnitude_mono hg hle hyfits
    | true =>
      -- Only zeros are above a number of negative sign.
      rw [hxneg, hyneg] at hrank
      have hxzero : x.magnitude = 0 := by simp at hrank; omega
      have hyzero : y.magnitude = 0 := by simp at hrank; omega
      rw [hxzero, hyzero, convertMagnitude_zero hf]
      simp
  | true =>
    cases hyneg : y.negative with
    | false => simp
    | true =>
      have hle : y.magnitude ≤ x.magnitude := by simpa [hxneg, hyneg] using hrank
      simpa using convertMagnitude_mono hg hle hxfits

end Binary

end GeometryIndex

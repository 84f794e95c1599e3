import GeometryIndex.Proofs.Envelopes.Joins
import GeometryIndex.Proofs.Keys.Order

/-!
# Keys — numbers and sorting

Numbers are ordered by their values (`Binary.compareNumbers_eq`), and a key without NaNs has a place
among the others by its numbers alone: by id, then bound by bound.  The order of keys is finer than
this only at the zeros, which are one number and two bit patterns: where two keys differ for the
first time in the sign of a zero, the negative one comes first (`Key.order_cases`).

Since keys that are equal in their order are the same, a list of keys has one ascending arrangement
(`Key.eq_of_ascending`), which is what sorting makes of it.

* `Key.linearly_ordered_by_bits`: the order of keys as a whole.
-/

namespace GeometryIndex

namespace Binary

variable {f : Format} {x y : Binary f} {xs ys : List (Binary f)}

/-! ### Numbers and bit patterns -/

/-- The value of a number, counted in the least positive one; infinity has the value that the next
magnitude would have.  It means nothing for a NaN. -/
def value (x : Binary f) : Int :=
  if x.negative then -(f.units x.magnitude : Int) else f.units x.magnitude

/-- Comparison as numbers; what is not ordered is not told apart. -/
def compareNumbers (x y : Binary f) : Ordering :=
  if x.below y then .lt else if y.below x then .gt else .eq

theorem value_lt_iff : x.value < y.value ↔ x.rank < y.rank := by
  have hlt : ∀ m m', f.units m < f.units m' ↔ m < m' := fun _ _ => f.units_strictMono.lt_iff_lt
  have hzero : f.units 0 = 0 := by simp [Format.units]
  have hx := hlt 0 x.magnitude
  have hy := hlt 0 y.magnitude
  have hxy := hlt x.magnitude y.magnitude
  have hyx := hlt y.magnitude x.magnitude
  rw [hzero] at hx hy
  simp only [value, rank]
  cases x.negative <;> cases y.negative <;> simp only [Bool.false_eq_true, if_true, if_false] <;>
    omega

/-- **Numbers compare by their values.** -/
theorem compareNumbers_eq (hx : x.isNaN = false) (hy : y.isNaN = false) :
    x.compareNumbers y = compare x.value y.value := by
  have hbelow : ∀ {z w : Binary f}, z.isNaN = false → w.isNaN = false →
      (z.below w = true ↔ z.value < w.value) := by
    intro z w hz hw
    rw [below_iff, value_lt_iff]
    simp [hz, hw]
  simp only [compareNumbers, hbelow hx hy, hbelow hy hx]
  rcases Int.lt_trichotomy x.value y.value with hlt | heq | hgt
  · rw [if_pos hlt, compare_lt_iff_lt.mpr hlt]
  · rw [if_neg (by omega), if_neg (by omega), compare_eq_iff_eq.mpr heq]
  · rw [if_neg (by omega), if_pos hgt, compare_gt_iff_gt.mpr hgt]

theorem position_negativeZero : (negativeZero : Binary f).position = -1 := by
  obtain ⟨hsign, hmagnitude⟩ := eq_negativeZero_iff.mp (rfl : (negativeZero : Binary f) = _)
  simp [position, hsign, hmagnitude]

theorem position_zero : (zero : Binary f).position = 0 := by
  have hsign : (zero : Binary f).negative = false := negative_ofParts _ f.span_pos
  simp [position, hsign, magnitude_zero]

theorem negativeZero_order_zero : (negativeZero : Binary f).order zero = .lt := by
  rw [order_eq_compare, position_negativeZero, position_zero]
  rfl

theorem zero_order_negativeZero : (zero : Binary f).order negativeZero = .gt := by
  rw [order_eq_compare, position_negativeZero, position_zero]
  rfl

theorem eq_of_order_eq (h : x.order y = .eq) : x = y := by
  rw [order_eq_compare, compare_eq_iff_eq] at h
  exact position_injective h

/-- The order by bit patterns is finer than the one by numbers. -/
theorem position_lt (h : x.rank < y.rank) : x.position < y.position := by
  revert h
  simp only [rank, position]
  cases x.negative <;> cases y.negative <;> simp only [Bool.false_eq_true, if_true, if_false] <;>
    omega

theorem eq_zero_iff : x = zero ↔ x.negative = false ∧ x.magnitude = 0 := by
  have hsign : (zero : Binary f).negative = false := negative_ofParts _ f.span_pos
  constructor
  · rintro rfl
    exact ⟨hsign, magnitude_zero⟩
  · rintro ⟨hx, hmagnitude⟩
    exact ext_parts (hx.trans hsign.symm) (hmagnitude.trans magnitude_zero.symm)

/-- Only the zeros are two bit patterns of one number. -/
theorem zeros_of_rank_eq (h : x.rank = y.rank) (hne : x ≠ y) :
    (x = negativeZero ∧ y = zero) ∨ (x = zero ∧ y = negativeZero) := by
  simp only [rank] at h
  simp only [eq_negativeZero_iff, eq_zero_iff]
  cases hx : x.negative <;> cases hy : y.negative <;>
    simp only [hx, hy, Bool.false_eq_true, if_true, if_false] at h
  · exact absurd (ext_parts (hx.trans hy.symm) (by omega)) hne
  · exact .inr ⟨⟨rfl, by omega⟩, rfl, by omega⟩
  · exact .inl ⟨⟨rfl, by omega⟩, rfl, by omega⟩
  · exact absurd (ext_parts (hx.trans hy.symm) (by omega)) hne

/-- **The total order is that of the numbers, but for the two zeros.** -/
theorem order_cases (hx : x.isNaN = false) (hy : y.isNaN = false) :
    x.order y = x.compareNumbers y ∨ (x = negativeZero ∧ y = zero) ∨
      (x = zero ∧ y = negativeZero) := by
  rw [compareNumbers_eq hx hy, order_eq_compare]
  rcases Int.lt_trichotomy x.rank y.rank with hlt | heq | hgt
  · left
    rw [compare_lt_iff_lt.mpr (position_lt hlt), compare_lt_iff_lt.mpr (value_lt_iff.mpr hlt)]
  · by_cases hsame : x = y
    · left
      rw [hsame, compare_eq_iff_eq.mpr rfl, compare_eq_iff_eq.mpr rfl]
    · exact .inr (zeros_of_rank_eq heq hsame)
  · left
    rw [compare_gt_iff_gt.mpr (position_lt hgt), compare_gt_iff_gt.mpr (value_lt_iff.mpr hgt)]

/-! ### Bound by bound -/

/-- The first numbers that are not the same bits are the negative and the positive zero. -/
def SeparatesZeros (xs ys : List (Binary f)) : Prop :=
  ∃ before xs' ys', xs = before ++ negativeZero :: xs' ∧ ys = before ++ zero :: ys'

theorem SeparatesZeros.cons (h : SeparatesZeros xs ys) (x : Binary f) :
    SeparatesZeros (x :: xs) (x :: ys) := by
  obtain ⟨before, xs', ys', rfl, rfl⟩ := h
  exact ⟨x :: before, xs', ys', rfl, rfl⟩

/-- Lists of numbers in the total order, and as numbers. -/
theorem compareLex_cases (hxs : ∀ x ∈ xs, x.isNaN = false) (hys : ∀ y ∈ ys, y.isNaN = false) :
    List.compareLex order xs ys = List.compareLex compareNumbers xs ys ∨
      (SeparatesZeros xs ys ∧ List.compareLex order xs ys = .lt) ∨
      (SeparatesZeros ys xs ∧ List.compareLex order xs ys = .gt) := by
  induction xs generalizing ys with
  | nil => cases ys <;> exact .inl rfl
  | cons x xs ih =>
    cases ys with
    | nil => exact .inl rfl
    | cons y ys =>
      rw [List.compareLex_cons_cons, List.compareLex_cons_cons]
      rcases order_cases (hxs x List.mem_cons_self) (hys y List.mem_cons_self) with
        hnumbers | ⟨rfl, rfl⟩ | ⟨rfl, rfl⟩
      · rw [← hnumbers]
        cases horder : x.order y with
        | lt => exact .inl rfl
        | gt => exact .inl rfl
        | eq =>
          -- The same bits so far, so that the rest decides.
          obtain rfl := eq_of_order_eq horder
          rcases ih (fun z hz => hxs z (List.mem_cons_of_mem _ hz))
              (fun z hz => hys z (List.mem_cons_of_mem _ hz)) with
            hrest | ⟨hrest, hlt⟩ | ⟨hrest, hgt⟩
          · exact .inl hrest
          · exact .inr (.inl ⟨hrest.cons x, hlt⟩)
          · exact .inr (.inr ⟨hrest.cons x, hgt⟩)
      · rw [negativeZero_order_zero]
        exact .inr (.inl ⟨⟨[], xs, ys, rfl, rfl⟩, rfl⟩)
      · rw [zero_order_negativeZero]
        exact .inr (.inr ⟨⟨[], ys, xs, rfl, rfl⟩, rfl⟩)

end Binary

namespace Box

variable {f : Format} {a b : Box f}

/-- The bounds, in the order of the fields. -/
def bounds (b : Box f) : List (Binary f) := [b.minX, b.maxX, b.minY, b.maxY]

theorem order_eq_bounds (a b : Box f) :
    a.order b = List.compareLex Binary.order a.bounds b.bounds := by
  simp [order, bounds, List.compareLex_cons_cons, List.compareLex_nil_nil]

theorem IsNumeric.bounds (h : b.IsNumeric) : ∀ x ∈ b.bounds, x.isNaN = false := by
  intro x hx
  simp only [Box.bounds, List.mem_cons, List.not_mem_nil, or_false] at hx
  rcases hx with rfl | rfl | rfl | rfl
  · exact h.minX
  · exact h.maxX
  · exact h.minY
  · exact h.maxY

/-- All four bit patterns are the same. -/
structure SameBits (a b : Box f) : Prop where
  minX : a.minX.bits = b.minX.bits
  maxX : a.maxX.bits = b.maxX.bits
  minY : a.minY.bits = b.minY.bits
  maxY : a.maxY.bits = b.maxY.bits

theorem sameBits_iff : a.SameBits b ↔ a = b := by
  constructor
  · rintro ⟨h₁, h₂, h₃, h₄⟩
    obtain ⟨⟨_⟩, ⟨_⟩, ⟨_⟩, ⟨_⟩⟩ := a
    obtain ⟨⟨_⟩, ⟨_⟩, ⟨_⟩, ⟨_⟩⟩ := b
    cases h₁
    cases h₂
    cases h₃
    cases h₄
    rfl
  · rintro rfl
    exact ⟨rfl, rfl, rfl, rfl⟩

end Box

namespace Key

variable {a b : Key} {keys keys' : List Key}

/-! ### Keys without NaNs -/

/-- No bound of the key is a NaN. -/
def IsNumeric (k : Key) : Prop := ∀ b ∈ k.box, b.IsNumeric

theorem isNumeric_none (row : Int64) : IsNumeric ⟨row, none⟩ := nofun

theorem isNumeric_some {row : Int64} {b : KeyBox} (h : b.IsNumeric) : IsNumeric ⟨row, some b⟩ :=
  fun _ hb => Option.some.inj hb ▸ h

/-- The bounds of the key's box; none if it has no box. -/
def bounds (k : Key) : List Single := k.box.elim [] Box.bounds

/-- Comparison by id, then bound by bound as numbers. -/
def compareNumbers (a b : Key) : Ordering :=
  (compare a.row.toInt b.row.toInt).then (List.compareLex Binary.compareNumbers a.bounds b.bounds)

/-- The keys have the same id, and the first of their bounds that are not the same bits are the
negative and the positive zero. -/
def SeparatesZeros (a b : Key) : Prop :=
  a.row = b.row ∧ Binary.SeparatesZeros a.bounds b.bounds

theorem IsNumeric.bounds {k : Key} (h : k.IsNumeric) : ∀ x ∈ k.bounds, x.isNaN = false := by
  obtain ⟨row, box⟩ := k
  cases box with
  | none => exact fun x hx => absurd hx List.not_mem_nil
  | some b => exact (h b rfl).bounds

theorem order_eq_bounds (a b : Key) :
    a.order b = (compare a.row.toInt b.row.toInt).then
      (List.compareLex Binary.order a.bounds b.bounds) := by
  rw [order, orderRow_eq_compare]
  congr 1
  obtain ⟨_, boxA⟩ := a
  obtain ⟨_, boxB⟩ := b
  cases boxA with
  | none => cases boxB <;> rfl
  | some a =>
    cases boxB with
    | none => rfl
    | some b => exact Box.order_eq_bounds a b

/-- **The order of keys is the numeric one, but for the two zeros.** -/
theorem order_cases (ha : a.IsNumeric) (hb : b.IsNumeric) :
    a.order b = a.compareNumbers b ∨ (a.SeparatesZeros b ∧ a.order b = .lt) ∨
      (b.SeparatesZeros a ∧ a.order b = .gt) := by
  rw [order_eq_bounds, compareNumbers]
  cases hrow : compare a.row.toInt b.row.toInt with
  | lt => exact .inl rfl
  | gt => exact .inl rfl
  | eq =>
    have hsame : a.row = b.row := Int64.toInt_inj.mp (compare_eq_iff_eq.mp hrow)
    exact (Binary.compareLex_cases ha.bounds hb.bounds).imp_right
      (Or.imp (.imp_left fun h => ⟨hsame, h⟩) (.imp_left fun h => ⟨hsame.symm, h⟩))

/-! ### Sorting -/

/-- No key is above one that comes later. -/
def Ascending (keys : List Key) : Prop := keys.Pairwise fun a b => a.order b ≠ .gt

/-- **A list of keys has one ascending arrangement.** -/
theorem eq_of_ascending (h : Ascending keys) (h' : Ascending keys') (hperm : keys.Perm keys') :
    keys = keys' := by
  refine List.Perm.eq_of_pairwise (fun a b _ _ hab hba => ?_) h h' hperm
  cases horder : a.order b with
  | lt => exact absurd (order_gt_iff.mpr horder) hba
  | eq => exact order_eq_iff.mp horder
  | gt => exact absurd horder hab

theorem order_ne_gt_trans {c : Key} (hab : a.order b ≠ .gt) (hbc : b.order c ≠ .gt) :
    a.order c ≠ .gt := by
  have hac : (a.order c).isLE = true :=
    Std.TransCmp.isLE_trans (Ordering.isLE_iff_ne_gt.mpr hab) (Ordering.isLE_iff_ne_gt.mpr hbc)
  exact Ordering.isLE_iff_ne_gt.mp hac

theorem ascending_sort (keys : List Key) : Ascending (sort keys) := by
  have hpairwise : (sort keys).Pairwise fun a b => decide (a.order b ≠ .gt) = true := by
    refine List.pairwise_mergeSort (fun a b c hab hbc => ?_) (fun a b => ?_) keys
    · exact decide_eq_true (order_ne_gt_trans (of_decide_eq_true hab) (of_decide_eq_true hbc))
    · by_cases hgt : a.order b = .gt
      · simp [order_gt_iff.mp hgt]
      · simp [hgt]
  exact hpairwise.imp of_decide_eq_true

/-! ### The order as a whole -/

theorem equals_iff_order (a b : Key) : a.equals b = true ↔ a.order b = .eq := decide_eq_true_iff

theorem order_eq_iff_bits :
    a.order b = .eq ↔ a.row = b.row ∧ Option.Rel Box.SameBits a.box b.box := by
  rw [order_eq_iff]
  obtain ⟨rowA, boxA⟩ := a
  obtain ⟨rowB, boxB⟩ := b
  rw [Key.mk.injEq]
  refine and_congr_right fun _ => ⟨?_, fun h => ?_⟩
  · rintro rfl
    cases boxA with
    | none => exact .none
    | some a => exact .some (Box.sameBits_iff.mpr rfl)
  · cases h with
    | none => rfl
    | some hbits => rw [Box.sameBits_iff.mp hbits]

theorem order_none_some (row : Int64) (b : KeyBox) : order ⟨row, none⟩ ⟨row, some b⟩ = .lt := by
  rw [order_eq_bounds, compare_eq_iff_eq.mpr rfl]
  rfl

/-- **Keys are linearly ordered by their bits**, whatever these stand for.  Turning two keys around
turns the order around, and the order is transitive.  It is equality on keys of the same id whose
boxes are both absent or the same in all four bit patterns, and on these only; `equals` agrees with
it.  A key without a box comes before those of its id that have one.  For keys without NaNs it is
the order of the numbers, id first and then bound by bound, except that the first bounds that are
not the same bits may be the two zeros, and then the negative one comes first.  Sorting a list of
keys gives an ascending arrangement of them, the same one for all permutations, and there is no
other one. -/
theorem linearly_ordered_by_bits :
    (∀ a b : Key, b.order a = (a.order b).swap) ∧
      (∀ a b c : Key, a.order b ≠ .gt → b.order c ≠ .gt → a.order c ≠ .gt) ∧
      (∀ a b : Key, a.order b = .eq ↔ a.row = b.row ∧ Option.Rel Box.SameBits a.box b.box) ∧
      (∀ a b : Key, a.equals b = true ↔ a.order b = .eq) ∧
      (∀ row box, order ⟨row, none⟩ ⟨row, some box⟩ = .lt) ∧
      (∀ a b : Key, a.IsNumeric → b.IsNumeric →
        a.order b = a.compareNumbers b ∨ (a.SeparatesZeros b ∧ a.order b = .lt) ∨
          (b.SeparatesZeros a ∧ a.order b = .gt)) ∧
      ∀ keys keys' : List Key, keys.Perm keys' →
        sort keys = sort keys' ∧ (sort keys).Perm keys ∧ Ascending (sort keys) ∧
          (Ascending keys' → keys' = sort keys) := by
  refine ⟨fun a b => Std.OrientedCmp.eq_swap, fun _ _ _ => order_ne_gt_trans,
    fun _ _ => order_eq_iff_bits, equals_iff_order, order_none_some, fun _ _ => order_cases,
    fun keys keys' hperm => ?_⟩
  have hsort : ∀ keys : List Key, (sort keys).Perm keys := fun keys => List.mergeSort_perm keys _
  have hsame : sort keys = sort keys' :=
    eq_of_ascending (ascending_sort keys) (ascending_sort keys')
      ((hsort keys).trans (hperm.trans (hsort keys').symm))
  refine ⟨hsame, hsort keys, ascending_sort keys, fun hascending => ?_⟩
  rw [hsame]
  exact eq_of_ascending hascending (ascending_sort keys') (hsort keys').symm

/-- A key whose least X is the negative zero, and whose greatest X is infinite. -/
def fromNegativeZero : Key := ⟨1, some ⟨.negativeZero, .infinity, .zero, .zero⟩⟩

/-- The key of the origin. -/
def origin : Key := ⟨1, some (.point .zero .zero)⟩

/-- A key with a NaN. -/
def withNaN : Key := ⟨1, some ⟨.zero, .nan, .zero, .zero⟩⟩

/-- The sign of a zero decides before later bounds do, which as numbers are the other way round. -/
theorem linearly_ordered_by_bits_zeros :
    fromNegativeZero.IsNumeric ∧ origin.IsNumeric ∧
      fromNegativeZero.compareNumbers origin = .gt ∧ fromNegativeZero.SeparatesZeros origin ∧
      fromNegativeZero.order origin = .lt ∧
      sort [withNaN, origin, ofRow 1, fromNegativeZero] =
        [ofRow 1, fromNegativeZero, origin, withNaN] := by
  obtain ⟨-, -, -, -, -, hnumeric, hsort⟩ := linearly_ordered_by_bits
  have hfrom : fromNegativeZero.IsNumeric :=
    isNumeric_some ⟨by decide, by decide, by decide, by decide⟩
  have horigin : origin.IsNumeric := isNumeric_some ⟨by decide, by decide, by decide, by decide⟩
  have hnumbers : fromNegativeZero.compareNumbers origin = .gt := by decide
  have hseparates : fromNegativeZero.SeparatesZeros origin ∧
      fromNegativeZero.order origin = .lt := by
    rcases hnumeric _ _ hfrom horigin with hsame | hlt | ⟨-, hgt⟩
    · rw [hnumbers] at hsame
      exact absurd hsame (by decide)
    · exact hlt
    · exact absurd hgt (by decide)
  have hascending : Ascending [ofRow 1, fromNegativeZero, origin, withNaN] := by
    simp only [Ascending, List.pairwise_cons, List.forall_mem_cons]
    decide
  have hperm : [withNaN, origin, ofRow 1, fromNegativeZero].Perm
      [ofRow 1, fromNegativeZero, origin, withNaN] := by decide
  exact ⟨hfrom, horigin, hnumbers, hseparates.1, hseparates.2,
    ((hsort _ _ hperm).2.2.2 hascending).symm⟩

end Key

end GeometryIndex

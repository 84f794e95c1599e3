import GeometryIndex.Key
import GeometryIndex.Proofs.Number.Binary

/-!
# Keys — the order

Keys are ordered as their places are: a place is a list of integers, the id followed by the places
of the four bounds, if there are any (`Key.order_eq_compareLex`).  A place tells its key
(`Key.place_injective`).  So the order of keys is total and transitive, and equality on equal keys
only, which is what the two instances say.
-/

namespace GeometryIndex

namespace Box

variable {f : Format}

/-- The places of the bounds, in the order of the fields. -/
def place (b : Box f) : List Int :=
  [b.minX.position, b.maxX.position, b.minY.position, b.maxY.position]

theorem place_injective {a b : Box f} (h : a.place = b.place) : a = b := by
  obtain ⟨minX, maxX, minY, maxY⟩ := a
  simp only [place, List.cons.injEq, and_true] at h
  obtain ⟨h₁, h₂, h₃, h₄⟩ := h
  rw [Binary.position_injective h₁, Binary.position_injective h₂, Binary.position_injective h₃,
    Binary.position_injective h₄]

theorem order_eq_compareLex (a b : Box f) :
    a.order b = List.compareLex compare a.place b.place := by
  simp [order, place, Binary.order_eq_compare, List.compareLex_cons_cons, List.compareLex_nil_nil]

end Box

namespace Key

/-- Where a key stands: its id, and the places of the bounds of its box. -/
def place (k : Key) : List Int := k.row.toInt :: k.box.elim [] Box.place

theorem place_injective {a b : Key} (h : a.place = b.place) : a = b := by
  obtain ⟨row, box⟩ := a
  obtain ⟨row', box'⟩ := b
  simp only [place, List.cons.injEq] at h
  obtain ⟨hrow, hbox⟩ := h
  obtain rfl := Int64.toInt_inj.mp hrow
  cases box with
  | none =>
    cases box' with
    | none => rfl
    | some b => simp [Box.place] at hbox
  | some a =>
    cases box' with
    | none => simp [Box.place] at hbox
    | some b => rw [Box.place_injective hbox]

theorem orderRow_eq_compare (a b : Int64) : orderRow a b = compare a.toInt b.toInt := by
  show _ = compareOfLessAndEq a.toInt b.toInt
  simp only [orderRow, compareOfLessAndEq, Int64.lt_iff_toInt_lt, Int64.toInt_inj]

/-- The order of keys is the order of their places. -/
theorem order_eq_compareLex (a b : Key) :
    a.order b = List.compareLex compare a.place b.place := by
  rw [order, place, place, List.compareLex_cons_cons, orderRow_eq_compare]
  congr 1
  cases a.box with
  | none => cases b.box <;> rfl
  | some a =>
    cases b.box with
    | none => rfl
    | some b => exact Box.order_eq_compareLex a b

instance : Std.TransCmp order where
  eq_swap {a b} := by
    rw [order_eq_compareLex, order_eq_compareLex]
    exact Std.OrientedCmp.eq_swap
  isLE_trans {a b c} := by
    rw [order_eq_compareLex, order_eq_compareLex, order_eq_compareLex]
    exact Std.TransCmp.isLE_trans

instance : Std.LawfulEqCmp order where
  eq_of_compare {a b} h := by
    rw [order_eq_compareLex] at h
    exact place_injective (Std.LawfulEqCmp.eq_of_compare h)

theorem order_eq_iff {a b : Key} : a.order b = .eq ↔ a = b := Std.LawfulEqCmp.compare_eq_iff_eq

theorem equals_iff {a b : Key} : a.equals b = true ↔ a = b :=
  decide_eq_true_iff.trans order_eq_iff

theorem order_gt_iff {a b : Key} : a.order b = .gt ↔ b.order a = .lt := Std.OrientedCmp.gt_iff_lt

theorem order_lt_trans {a b c : Key} (hab : a.order b = .lt) (hbc : b.order c = .lt) :
    a.order c = .lt :=
  Std.TransCmp.lt_trans hab hbc

theorem ne_of_order_lt {a b : Key} (h : a.order b = .lt) : a ≠ b := by
  rintro rfl
  rw [order_eq_iff.mpr rfl] at h
  cases h

theorem ne_of_order_gt {a b : Key} (h : a.order b = .gt) : a ≠ b :=
  (ne_of_order_lt (order_gt_iff.mp h)).symm

end Key

end GeometryIndex

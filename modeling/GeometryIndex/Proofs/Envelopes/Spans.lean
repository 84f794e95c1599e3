import GeometryIndex.Proofs.Number.Canonical
import GeometryIndex.Proofs.Reading.Shells

/-!
# Envelopes — the bounds of an axis

The bounds that are reached from coordinates span an axis (`Binary.Spans`): the lower one is at most
the upper one, or neither is a number.  Which of the two it is was settled by the first coordinate,
since a bound that is not a number is neither above nor below anything (`Envelope.around_eq_some`).

* `Envelope.Proper.narrow_intersects_self_iff`: such an envelope, rounded to the precision of a key,
  meets itself exactly if its bounds are numbers.
-/

namespace GeometryIndex

/-! ### Choosing between bounds -/

namespace Binary

variable {f : Format} {low high : Binary f}

/-- The lower bound is at most the upper one, or neither is a number. -/
def Spans (low high : Binary f) : Prop :=
  low.atMost high = true ∨ low.isNaN = true ∧ high.isNaN = true

theorem spans_self (x : Binary f) : Spans x x := by
  cases hx : x.isNaN with
  | false => exact .inl (atMost_self.mpr hx)
  | true => exact .inr ⟨hx, hx⟩

/-- Bounds that span an axis are both numbers or both not. -/
theorem Spans.atMost_iff_isNaN (h : Spans low high) :
    low.atMost high = true ↔ low.isNaN = false := by
  constructor
  · exact fun hle => (Binary.atMost_iff.mp hle).1
  · intro hlow
    refine h.resolve_right fun hnan => ?_
    rw [hlow] at hnan
    exact absurd hnan.1 Bool.false_ne_true

end Binary

namespace Box

variable {f : Format} {x y : Binary f}

@[simp] theorem lower_self (x : Binary f) : lower x x = x := ite_self x

@[simp] theorem upper_self (x : Binary f) : upper x x = x := ite_self x

theorem lower_of_atMost (h : x.atMost y = true) : lower x y = x := by
  simp [lower, Binary.not_below_of_atMost h]

theorem upper_of_atMost (h : x.atMost y = true) : upper y x = y := by
  simp [upper, Binary.not_below_of_atMost h]

/-- In canonical form, an upper bound that is not above the lower one is the lower one. -/
theorem upper_canonical (hf : 1 < f.binade) (h : x.atMost y = true) :
    upper x.canonical y.canonical = y.canonical := by
  rw [upper, Binary.below_canonical hf]
  cases hbelow : x.below y with
  | true => rfl
  | false =>
    obtain ⟨hx, hy, hle⟩ := Binary.atMost_iff.mp h
    have hrank : x.rank = y.rank := by
      refine Int.le_antisymm hle (Int.not_lt.mp fun hlt => ?_)
      rw [Binary.below_iff.mpr ⟨hx, hy, hlt⟩] at hbelow
      cases hbelow
    exact Binary.canonical_congr (Binary.equals_iff.mpr ⟨hx, hy, hrank⟩)

/-- What is chosen as a lower bound is a number exactly if the bound so far is one. -/
theorem isNaN_lower (x y : Binary f) : (lower x y).isNaN = x.isNaN := by
  rw [lower]
  split
  · next hbelow =>
    obtain ⟨hy, hx, -⟩ := Binary.below_iff.mp hbelow
    rw [hy, hx]
  · rfl

end Box

theorem Binary.Spans.widen {f : Format} {low high : Binary f} (h : Spans low high)
    (x : Binary f) : Spans (Box.lower low x) (Box.upper high x) := by
  rw [Box.lower, Box.upper]
  rcases h with hle | ⟨hlow, hhigh⟩
  · obtain ⟨hlow, hhigh, hrank⟩ := atMost_iff.mp hle
    split
    · next hbelow =>
      obtain ⟨hx, -, hlt⟩ := below_iff.mp hbelow
      split
      · exact spans_self x
      · exact .inl (atMost_iff.mpr ⟨hx, hhigh, Int.le_trans (Int.le_of_lt hlt) hrank⟩)
    · split
      · next habove =>
        obtain ⟨-, hx, hlt⟩ := below_iff.mp habove
        exact .inl (atMost_iff.mpr ⟨hlow, hx, Int.le_trans hrank (Int.le_of_lt hlt)⟩)
      · exact .inl hle
  · -- a bound that is not a number stays
    have hstays : x.below low = false ∧ high.below x = false := by
      simp [below, ordered, hlow, hhigh]
    rw [hstays.1, hstays.2]
    exact .inr ⟨hlow, hhigh⟩

/-- In canonical form, what is chosen from the bounds of an axis are the bounds. -/
theorem Binary.Spans.choose_canonical {f : Format} {low high : Binary f} (h : Spans low high)
    (hf : 1 < f.binade) :
    Box.lower low.canonical high.canonical = low.canonical ∧
      Box.upper low.canonical high.canonical = high.canonical ∧
      Box.upper high.canonical low.canonical = high.canonical := by
  rcases h with hle | ⟨hlow, hhigh⟩
  · have hle' : low.canonical.atMost high.canonical = true :=
      (atMost_canonical hf low high).trans hle
    exact ⟨Box.lower_of_atMost hle', Box.upper_canonical hf hle, Box.upper_of_atMost hle'⟩
  · rw [canonical_of_isNaN hlow, canonical_of_isNaN hhigh]
    exact ⟨Box.lower_self nan, Box.upper_self nan, Box.upper_self nan⟩

/-- Bounds that are numbers are still in order at the precision of a key. -/
theorem Binary.Spans.narrow_atMost {low high : Double} (h : Spans low high)
    (hlow : low.isNaN = false) : low.narrow.atMost high.narrow = true :=
  Binary.convert_atMost (by decide) (by decide) (h.atMost_iff_isNaN.mpr hlow)

/-! ### Envelopes reached from coordinates -/

namespace Envelope

/-- Each axis of the envelope is spanned by its bounds. -/
structure Proper (e : Envelope) : Prop where
  x : Binary.Spans e.minX e.maxX
  y : Binary.Spans e.minY e.maxY

theorem proper_point (x y : Double) : Proper (.point x y) :=
  ⟨Binary.spans_self x, Binary.spans_self y⟩

theorem Proper.expand {e : Envelope} (h : e.Proper) (x y : Double) :
    Proper (Box.expand e x y) :=
  ⟨h.x.widen x, h.y.widen y⟩

/-- Widening an envelope keeps its axes spanned, and makes no bound a number that was none. -/
theorem foldl_reach {e : Envelope} (h : e.Proper) (cs : List Coordinate) :
    ∃ widened, cs.foldl reach (some e) = some widened ∧ widened.Proper ∧
      widened.minX.isNaN = e.minX.isNaN ∧ widened.minY.isNaN = e.minY.isNaN := by
  induction cs generalizing e with
  | nil => exact ⟨e, rfl, h, rfl, rfl⟩
  | cons c cs ih =>
    obtain ⟨widened, hfold, hproper, hx, hy⟩ := ih (h.expand c.x c.y)
    exact ⟨widened, hfold, hproper, hx.trans (Box.isNaN_lower _ _), hy.trans (Box.isNaN_lower _ _)⟩

/-- **An envelope that is reached from coordinates** spans its axes, and has a bound that is not a
number exactly on an axis where the first coordinate has none. -/
theorem around_eq_some {cs : List Coordinate} {e : Envelope} (h : around cs = some e) :
    ∃ first rest, cs = first :: rest ∧ e.Proper ∧ e.minX.isNaN = first.x.isNaN ∧
      e.minY.isNaN = first.y.isNaN := by
  cases cs with
  | nil => cases h
  | cons first rest =>
    obtain ⟨widened, hfold, hproper, hx, hy⟩ := foldl_reach (proper_point first.x first.y) rest
    obtain rfl := Option.some.inj (hfold.symm.trans h)
    exact ⟨first, rest, rfl, hproper, hx, hy⟩

/-! ### At the precision of a key -/

theorem isNaN_narrow (x : Double) : (Double.narrow x).isNaN = x.isNaN := by
  cases hx : x.isNaN with
  | false => exact Binary.isNaN_convert hx
  | true => exact (Binary.convert_roundsTo (by decide) x).nan hx

/-- What meets an envelope at the precision of a key meets numbers. -/
theorem isNaN_of_narrow_intersects {b : KeyBox} {e : Envelope}
    (h : Box.intersects b e.narrow = true) : e.minX.isNaN = false ∧ e.minY.isNaN = false := by
  simp only [Box.intersects, Bool.and_eq_true] at h
  obtain ⟨⟨⟨hx, -⟩, hy⟩, -⟩ := h
  exact ⟨(isNaN_narrow e.minX).symm.trans (Binary.atMost_iff.mp hx).1,
    (isNaN_narrow e.minY).symm.trans (Binary.atMost_iff.mp hy).1⟩

/-- **An envelope meets itself** at the precision of a key exactly if its bounds are numbers. -/
theorem Proper.narrow_intersects_self_iff {e : Envelope} (h : e.Proper) :
    Box.intersects e.narrow e.narrow = true ↔ e.minX.isNaN = false ∧ e.minY.isNaN = false := by
  refine ⟨isNaN_of_narrow_intersects, fun ⟨hx, hy⟩ => ?_⟩
  have hminX := h.x.narrow_atMost hx
  have hminY := h.y.narrow_atMost hy
  simp only [Box.intersects, Bool.and_eq_true, and_self, and_assoc]
  exact ⟨hminX, hminY⟩

end Envelope

end GeometryIndex

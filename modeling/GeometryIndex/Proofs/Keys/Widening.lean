import GeometryIndex.Proofs.Keys.Sorting
import GeometryIndex.Proofs.Number.Widening

/-!
# Keys — widening

The box of a key, seen as an envelope, has the same numbers at double precision.  So boxes meet
exactly if their envelopes do (`KeyBox.intersects_widen`), and an envelope that comes from a box
without NaNs makes the same box again (`KeyBox.narrow_widen`), and the same key
(`Key.ofEnvelope_widen`).
-/

namespace GeometryIndex

/-- **Boxes meet exactly if their envelopes do**, NaNs included. -/
theorem KeyBox.intersects_widen (a b : KeyBox) :
    Box.intersects a.widen b.widen = a.intersects b := by
  simp only [Box.intersects, KeyBox.widen, Box.map, Single.atMost_widen]

/-- **A box without NaNs is the box of its envelope**, bit for bit. -/
theorem KeyBox.narrow_widen {b : KeyBox} (h : b.IsNumeric) : b.widen.narrow = b := by
  obtain ⟨hminX, hmaxX, hminY, hmaxY⟩ := h
  simp only [Envelope.narrow, KeyBox.widen, Box.map, Single.narrow_widen hminX,
    Single.narrow_widen hmaxX, Single.narrow_widen hminY, Single.narrow_widen hmaxY]

theorem Envelope.isNumeric_narrow {e : Envelope} (h : Box.IsNumeric e) : e.narrow.IsNumeric :=
  ⟨Binary.isNaN_convert h.minX, Binary.isNaN_convert h.maxX, Binary.isNaN_convert h.minY,
    Binary.isNaN_convert h.maxY⟩

/-- Narrowing again changes nothing. -/
theorem Envelope.narrow_narrow {e : Envelope} (h : Box.IsNumeric e) :
    e.narrow.widen.narrow = e.narrow :=
  KeyBox.narrow_widen (isNumeric_narrow h)

/-- A key without NaNs is that of its row and its widened box. -/
theorem Key.ofEnvelope_widen {k : Key} (h : k.IsNumeric) :
    ofEnvelope k.row (k.box.map KeyBox.widen) = k := by
  obtain ⟨row, box⟩ := k
  cases box with
  | none => rfl
  | some b =>
    have hbox : b.widen.narrow = b := KeyBox.narrow_widen (h b rfl)
    simp only [ofEnvelope, Option.map_some, hbox]

end GeometryIndex

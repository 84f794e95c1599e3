import GeometryIndex.Proofs.Envelopes.Compact
import GeometryIndex.Proofs.Index.Searches
import GeometryIndex.Proofs.Reading.Values

/-!
# Indexes — the forms of an envelope

A column can hold an envelope in three forms: as the geometry value of the envelope, as the value
that is made of its compact form, and as the compact form itself.  The first has the bounds as they
were given; the other two have what is read back, which is in canonical form.

* `Index.forms_have_one_key_iff`: so rows with the three forms have one key, and are removed for one
  another, exactly if no bound is the negative zero;
* `Index.negative_zero_is_missing`: the point (-0, 0), added as a value and missing as bytes.
-/

namespace GeometryIndex

open Catalog

namespace Index

variable {ix : Index} {row kept read raw : Row} {e : Envelope} {minX maxX minY maxY : Double}
  {rows : List Row} {c : Catalog} {M : Contents}

/-! ### The key of a form -/

/-- The value of a row in the indexed column. -/
def value (ix : Index) (row : Row) : Value := row.value ix.column.column.id.toNat

theorem key_of_kept (h : ix.value row = .geometry (.ofEnvelope e)) :
    ix.key row = .ok (.ofEnvelope row.id (some e)) :=
  key_eq (congrArg Value.envelope? h)

/-- Bytes give a row the key of their envelope, however they are kept. -/
theorem key_of_isMadeOf {bytes : List UInt8} {envelope : Option Envelope}
    (h : (ix.value row).IsMadeOf bytes) (he : Geometry.envelope bytes = .ok envelope) :
    ix.key row = .ok (.ofEnvelope row.id envelope) :=
  key_eq (h.envelope?_eq.trans he)

/-! ### Rows of one key -/

/-- The rows have keys, all of them equal. -/
def OneKey (ix : Index) (rows : List Row) : Prop :=
  ∀ a ∈ rows, ∀ b ∈ rows, ∃ k m, ix.key a = .ok k ∧ ix.key b = .ok m ∧ k.equals m = true

/-- Whichever of the rows was added to an open index and not removed since, any of them can be
removed, as long as their key occurs no more often than a word of 32 bits can count. -/
def Exchangeable (ix : Index) (rows : List Row) : Prop :=
  ∀ (c : Catalog) (M : Contents), Reachable c M → ix.isClosed c = false →
    ∀ added ∈ rows, ∀ key, ix.key added = .ok key → key ∈ M ix.map.map →
      (M ix.map.map).count key < UInt32.size →
        ∀ removed ∈ rows, ∀ session, (ix.remove session removed c).answer = .ok ()

theorem oneKey_iff {key : Key} (hrow : row ∈ rows) (hkey : ix.key row = .ok key) :
    ix.OneKey rows ↔ ∀ a ∈ rows, ix.key a = .ok key := by
  constructor
  · intro h a ha
    obtain ⟨k, m, hk, hm, hequals⟩ := h row hrow a ha
    rw [hm, ← Key.equals_iff.mp hequals, ← hk, hkey]
  · intro h a ha b hb
    exact ⟨key, key, h a ha, h b hb, Key.equals_iff.mpr rfl⟩

theorem OneKey.exchangeable (h : ix.OneKey rows) : ix.Exchangeable rows := by
  intro c M hreachable hopen added hadded key hkey hmem hfits removed hremoved session
  have hsame := (oneKey_iff hadded hkey).mp h removed hremoved
  exact (remove_ok_iff hreachable hopen hfits hsame).mpr hmem

/-- The row `added` can be added to an open index, and then the row `sought` is missing, unless its
key was there before. -/
def MissingAfter (ix : Index) (added sought : Row) : Prop :=
  ∀ (c : Catalog) (M : Contents), Reachable c M → ix.isClosed c = false →
    ∀ key, ix.key sought = .ok key → key ∉ M ix.map.map → ∀ session,
      (ix.add session added c).answer = .ok () ∧
        (ix.remove session sought (ix.add session added c).catalog).answer =
          .error (.integrity (.missingRow sought.id ix.name))

theorem missingAfter_of_ne {added sought : Row} {k m : Key} (hk : ix.key added = .ok k)
    (hm : ix.key sought = .ok m) (hne : m ≠ k) : ix.MissingAfter added sought := by
  intro c M hreachable hopen key hkey hnew session
  obtain rfl := Except.ok.inj (hm.symm.trans hkey)
  obtain ⟨-, hmap⟩ := isClosed_eq_false.mp hopen
  have hadded := hreachable.add ix.map k (by rw [MapHandle.add_of_open hmap])
  have hstill : ix.isClosed (ix.map.add k c).catalog = false := by
    rw [MapHandle.add_of_open hmap]
    exact (isClosed_setEntries _ _).trans hopen
  have hnone : m ∉ Function.update M ix.map.map (k ::ₘ M ix.map.map) ix.map.map := by
    rw [Function.update_self, Multiset.mem_cons, not_or]
    exact ⟨hne, hnew⟩
  rw [add_of_open hopen hk]
  refine ⟨rfl, ?_⟩
  cases herase : ((ix.map.add k c).catalog.entries ix.map.map).erase? m with
  | none => rw [remove_of_none hstill hm herase, row_of_key hm]
  | some left =>
    have hfits : Multiset.count m (Function.update M ix.map.map (k ::ₘ M ix.map.map) ix.map.map)
        < UInt32.size := by
      rw [Multiset.count_eq_zero_of_notMem hnone]
      decide
    have hsome := (hadded.holds.entries ix.map.map).erase?_isSome hfits
    rw [herase] at hsome
    exact absurd (hsome.mp rfl) hnone

/-! ### The three forms -/

/-- **The forms of an envelope have one key exactly without negative zeros.**  Take an envelope
whose bounds are in order, and rows of one id that hold it in the indexed column: as its geometry
value, as the value made of its compact form, which can always be made, and as the compact form
itself.  The last two have one key, so that in whatever state of the index one of them is removed
for the other.  The same is true of all three if no bound is the negative zero, and only then:
otherwise the others are missing from an index to which the first row was added. -/
theorem forms_have_one_key_iff (he : Envelope.checked minX maxX minY maxY = .ok e) :
    ∃ g, GeometryValue.ofBytes e.compact = .ok g ∧
      ∀ (ix : Index) (kept read raw : Row), ix.value kept = .geometry (.ofEnvelope e) →
        ix.value read = .geometry g → ix.value raw = .binary e.compact → read.id = kept.id →
        raw.id = kept.id →
          ix.OneKey [read, raw] ∧ ix.Exchangeable [read, raw] ∧
          (ix.OneKey [kept, read, raw] ↔ e.Unsigned) ∧
          (e.Unsigned → ix.Exchangeable [kept, read, raw]) ∧
          (¬ e.Unsigned → ix.MissingAfter kept read ∧ ix.MissingAfter kept raw) := by
  obtain ⟨g, hmade, -⟩ := GeometryValue.exists_ofBytes (Envelope.envelope_compact he)
  refine ⟨g, hmade, fun ix kept read raw hkept hread hraw hidRead hidRaw => ?_⟩
  let canonical : Key := .ofEnvelope kept.id (some (e.map Binary.canonical))
  have hkeptKey : ix.key kept = .ok (.ofEnvelope kept.id (some e)) := key_of_kept hkept
  have hreadKey : ix.key read = .ok canonical := by
    have hvalue : (ix.value read).IsMadeOf e.compact := hread ▸ .geometry hmade
    rw [key_of_isMadeOf hvalue (Envelope.envelope_compact he), hidRead]
  have hrawKey : ix.key raw = .ok canonical := by
    have hvalue : (ix.value raw).IsMadeOf e.compact := hraw ▸ .binary
    rw [key_of_isMadeOf hvalue (Envelope.envelope_compact he), hidRaw]
  -- The ids are the same, so the keys are if their boxes are.
  have hsame : canonical = .ofEnvelope kept.id (some e) ↔ e.Unsigned := by
    rw [← Envelope.narrow_canonical_iff he]
    simp [canonical, Key.ofEnvelope]
  have hlast : ix.OneKey [read, raw] :=
    (oneKey_iff List.mem_cons_self hreadKey).mpr (by simp [hreadKey, hrawKey])
  have hall : ix.OneKey [kept, read, raw] ↔ e.Unsigned := by
    rw [oneKey_iff List.mem_cons_self hkeptKey, ← hsame]
    simp [hkeptKey, hreadKey, hrawKey]
  refine ⟨hlast, hlast.exchangeable, hall, fun h => (hall.mpr h).exchangeable, fun hsigned => ?_⟩
  have hne : canonical ≠ .ofEnvelope kept.id (some e) := fun heq => hsigned (hsame.mp heq)
  exact ⟨missingAfter_of_ne hkeptKey hreadKey hne, missingAfter_of_ne hkeptKey hrawKey hne⟩

/-- A row with the compact form of an envelope in the column of number 1. -/
def rowOfCompact (id : Int64) (e : Envelope) : Row := ⟨id, [.null, .binary e.compact]⟩

theorem forms_have_one_key_wide :
    Envelope.checked wideBox.minX wideBox.maxX wideBox.minY wideBox.maxY = .ok wideBox ∧
      wideBox.Unsigned ∧
      ∃ g, GeometryValue.ofBytes wideBox.compact = .ok g ∧
        (Index.sample ⟨0⟩).Exchangeable
          [rowOf 1 wideBox, ⟨1, [.null, .geometry g]⟩, rowOfCompact 1 wideBox] := by
  have hchecked :
      Envelope.checked wideBox.minX wideBox.maxX wideBox.minY wideBox.maxY = .ok wideBox := by
    decide
  have hunsigned : wideBox.Unsigned := by decide
  obtain ⟨g, hmade, hforms⟩ := forms_have_one_key_iff hchecked
  obtain ⟨-, -, -, hexchange, -⟩ := hforms (.sample ⟨0⟩) (rowOf 1 wideBox)
    ⟨1, [.null, .geometry g]⟩ (rowOfCompact 1 wideBox) rfl rfl rfl rfl rfl
  exact ⟨hchecked, hunsigned, g, hmade, hexchange hunsigned⟩

/-- The point (-0, 0). -/
def signedOrigin : Envelope := .point .negativeZero .zero

/-- The point, as a geometry value, in an index. -/
def signedHistory : List Request :=
  [.openIndex "i" .sample .sample "T", .index "i" (.add .sample (rowOf 1 signedOrigin))]

/-- **A row is missing from an index it was added to**, if it comes back as bytes. -/
theorem negative_zero_is_missing :
    Envelope.checked .negativeZero .negativeZero .zero .zero = .ok signedOrigin ∧
      (Database.empty.after signedHistory).index? "i" = some (.sample ⟨0⟩) ∧
      (Index.sample ⟨0⟩).isClosed (Database.empty.after signedHistory).catalog = false ∧
      (∃ k m, (Index.sample ⟨0⟩).key (rowOf 1 signedOrigin) = .ok k ∧
        (Index.sample ⟨0⟩).key (rowOfCompact 1 signedOrigin) = .ok m ∧ k.equals m = false ∧
        Database.contents signedHistory ⟨0⟩ = {k}) ∧
      ((Index.sample ⟨0⟩).remove .sample (rowOfCompact 1 signedOrigin)
          (Database.empty.after signedHistory).catalog).answer =
        .error (.integrity (.missingRow 1 "PLACES")) :=
  ⟨rfl, rfl, by decide, ⟨_, _, rfl, rfl, by decide +kernel, rfl⟩, by decide +kernel⟩

end Index

end GeometryIndex

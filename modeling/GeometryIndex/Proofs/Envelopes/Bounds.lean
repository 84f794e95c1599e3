import GeometryIndex.Box.Compact
import GeometryIndex.Proofs.Envelopes.Spans

/-!
# Envelopes — the exact bounds

An envelope is reached from the shells of a geometry one axis at a time: a bound is chosen from the
ordinates by a fold (`Envelope.around_cons`).  A choice between numbers takes the better one and
stays with what it has where one of the two is no number (`Binary.Chooses`), so an axis that begins
with a number ends with the minimum and the maximum of its numbers, and one that begins with none
stays without (`Envelope.AxisBounds`).  The ordinates are canonical, so there is just one minimum
and one maximum, bit for bit.

* `Envelope.envelope_bounds_shells`: the envelope of an accepted input;
* `Tree.shells_outline`: inner rings, Z, M and SRIDs have no part in it.
-/

namespace GeometryIndex

/-! ### Choosing from many -/

namespace Binary

variable {f : Format} {x y low high : Binary f} {xs : List (Binary f)}

/-- The numbers among the given ones. -/
def numbers (xs : List (Binary f)) : List (Binary f) := xs.filter fun x => !x.isNaN

theorem mem_numbers : x ∈ numbers xs ↔ x ∈ xs ∧ x.isNaN = false := by
  simp [numbers]

/-- One of the given numbers that is at most any of them. -/
def IsMinimum (low : Binary f) (xs : List (Binary f)) : Prop :=
  low ∈ xs ∧ ∀ x ∈ xs, low.atMost x = true

/-- One of the given numbers that any of them is at most. -/
def IsMaximum (high : Binary f) (xs : List (Binary f)) : Prop :=
  high ∈ xs ∧ ∀ x ∈ xs, x.atMost high = true

theorem atMost_trans {z : Binary f} (hxy : x.atMost y = true) (hyz : y.atMost z = true) :
    x.atMost z = true := by
  obtain ⟨hx, -, hle⟩ := atMost_iff.mp hxy
  obtain ⟨-, hz, hle'⟩ := atMost_iff.mp hyz
  exact atMost_iff.mpr ⟨hx, hz, Int.le_trans hle hle'⟩

/-- Canonical numbers that are at most each other are the same. -/
theorem eq_of_atMost (hx : x.canonical = x) (hy : y.canonical = y) (hxy : x.atMost y = true)
    (hyx : y.atMost x = true) : x = y := by
  obtain ⟨hx', hy', hle⟩ := atMost_iff.mp hxy
  have hge := (atMost_iff.mp hyx).2.2
  rw [← hx, ← hy]
  exact canonical_congr (equals_iff.mpr ⟨hx', hy', Int.le_antisymm hle hge⟩)

/-- Among canonical numbers there is one minimum at most. -/
theorem IsMinimum.iff_eq (h : IsMinimum low xs) (hxs : ∀ x ∈ xs, x.canonical = x) :
    IsMinimum x xs ↔ x = low := by
  refine ⟨fun hx => ?_, fun hx => hx ▸ h⟩
  exact eq_of_atMost (hxs x hx.1) (hxs low h.1) (hx.2 low h.1) (h.2 x hx.1)

/-- Among canonical numbers there is one maximum at most. -/
theorem IsMaximum.iff_eq (h : IsMaximum high xs) (hxs : ∀ x ∈ xs, x.canonical = x) :
    IsMaximum x xs ↔ x = high := by
  refine ⟨fun hx => ?_, fun hx => hx ▸ h⟩
  exact eq_of_atMost (hxs x hx.1) (hxs high h.1) (h.2 x hx.1) (hx.2 high h.1)

/-- A comparison with what is no number fails. -/
theorem below_of_isNaN (h : x.isNaN = true ∨ y.isNaN = true) : x.below y = false := by
  rcases h with h | h <;> simp [below, ordered, h]

theorem below_or_atMost (hx : x.isNaN = false) (hy : y.isNaN = false) :
    x.below y = true ∧ x.atMost y = true ∨ x.below y = false ∧ y.atMost x = true := by
  cases hbelow : x.below y with
  | true =>
    obtain ⟨-, -, hlt⟩ := below_iff.mp hbelow
    exact .inl ⟨rfl, atMost_iff.mpr ⟨hx, hy, Int.le_of_lt hlt⟩⟩
  | false =>
    refine .inr ⟨rfl, atMost_iff.mpr ⟨hy, hx, Int.not_lt.mp fun hlt => ?_⟩⟩
    rw [below_iff.mpr ⟨hx, hy, hlt⟩] at hbelow
    cases hbelow

/-- `choose` takes the better of two numbers, and stays with the first where one is no number. -/
structure Chooses (choose : Binary f → Binary f → Binary f) (better : Binary f → Binary f → Prop) :
    Prop where
  stays : ∀ {x y}, x.isNaN = true ∨ y.isNaN = true → choose x y = x
  picks : ∀ {x y}, x.isNaN = false → y.isNaN = false →
    choose x y = x ∧ better x y ∨ choose x y = y ∧ better y x
  refl : ∀ {x}, x.isNaN = false → better x x
  trans : ∀ {x y z}, better x y → better y z → better x z

theorem chooses_lower : Chooses (Box.lower (f := f)) fun x y => x.atMost y = true where
  stays h := if_neg (Bool.eq_false_iff.mp (below_of_isNaN h.symm))
  picks hx hy := by
    unfold Box.lower
    rcases below_or_atMost hy hx with ⟨hbelow, hle⟩ | ⟨hbelow, hle⟩
    · exact .inr ⟨by rw [if_pos hbelow], hle⟩
    · exact .inl ⟨by rw [hbelow]; rfl, hle⟩
  refl := atMost_self.mpr
  trans := atMost_trans

theorem chooses_upper : Chooses (Box.upper (f := f)) fun x y => y.atMost x = true where
  stays h := if_neg (Bool.eq_false_iff.mp (below_of_isNaN h))
  picks hx hy := by
    unfold Box.upper
    rcases below_or_atMost hx hy with ⟨hbelow, hle⟩ | ⟨hbelow, hle⟩
    · exact .inr ⟨by rw [if_pos hbelow], hle⟩
    · exact .inl ⟨by rw [hbelow]; rfl, hle⟩
  refl := atMost_self.mpr
  trans h h' := atMost_trans h' h

namespace Chooses

variable {choose : Binary f → Binary f → Binary f} {better : Binary f → Binary f → Prop}

theorem eq_or_eq (h : Chooses choose better) (x y : Binary f) :
    choose x y = x ∨ choose x y = y := by
  cases hx : x.isNaN with
  | true => exact .inl (h.stays (.inl hx))
  | false =>
    cases hy : y.isNaN with
    | true => exact .inl (h.stays (.inr hy))
    | false => exact (h.picks hx hy).imp And.left And.left

/-- From a number on, the choice is a number that is better than both. -/
theorem better_choose (h : Chooses choose better) (hx : x.isNaN = false) (y : Binary f) :
    (choose x y).isNaN = false ∧ better (choose x y) x ∧
      (y.isNaN = false → better (choose x y) y) := by
  cases hy : y.isNaN with
  | true =>
    rw [h.stays (.inr hy)]
    exact ⟨hx, h.refl hx, nofun⟩
  | false =>
    rcases h.picks hx hy with ⟨heq, hbetter⟩ | ⟨heq, hbetter⟩ <;> rw [heq]
    · exact ⟨hx, h.refl hx, fun _ => hbetter⟩
    · exact ⟨hy, hbetter, fun _ => h.refl hy⟩

/-- What is chosen is one of those to choose from. -/
theorem foldl_mem (h : Chooses choose better) (x : Binary f) (xs : List (Binary f)) :
    xs.foldl choose x ∈ x :: xs := by
  induction xs generalizing x with
  | nil => exact List.mem_cons_self
  | cons y xs ih =>
    rw [List.foldl_cons]
    rcases h.eq_or_eq x y with heq | heq <;> rw [heq]
    · refine List.mem_cons.mpr ((List.mem_cons.mp (ih x)).imp_right ?_)
      exact List.mem_cons_of_mem y
    · exact List.mem_cons_of_mem x (ih y)

/-- A choice that begins with no number stays there. -/
theorem foldl_of_isNaN (h : Chooses choose better) (hx : x.isNaN = true) (xs : List (Binary f)) :
    xs.foldl choose x = x := by
  induction xs with
  | nil => rfl
  | cons y xs ih => rw [List.foldl_cons, h.stays (.inl hx), ih]

/-- A choice that begins with a number ends with one that is better than all the others. -/
theorem better_foldl (h : Chooses choose better) (hx : x.isNaN = false) (xs : List (Binary f)) :
    (xs.foldl choose x).isNaN = false ∧
      ∀ y ∈ numbers (x :: xs), better (xs.foldl choose x) y := by
  induction xs generalizing x with
  | nil =>
    refine ⟨hx, fun y hy => ?_⟩
    obtain rfl := List.mem_singleton.mp (mem_numbers.mp hy).1
    exact h.refl hx
  | cons z xs ih =>
    obtain ⟨hchosen, hbetterX, hbetterZ⟩ := h.better_choose hx z
    obtain ⟨hnumber, hrest⟩ := ih hchosen
    have hlast := hrest _ (mem_numbers.mpr ⟨List.mem_cons_self, hchosen⟩)
    refine ⟨hnumber, fun y hmem => ?_⟩
    obtain ⟨hmem, hy⟩ := mem_numbers.mp hmem
    rcases List.mem_cons.mp hmem with rfl | hmem
    · exact h.trans hlast hbetterX
    · rcases List.mem_cons.mp hmem with rfl | hmem
      · exact h.trans hlast (hbetterZ hy)
      · exact hrest y (mem_numbers.mpr ⟨List.mem_cons_of_mem _ hmem, hy⟩)

end Chooses

theorem isMinimum_foldl (hx : x.isNaN = false) (xs : List (Binary f)) :
    IsMinimum (xs.foldl Box.lower x) (numbers (x :: xs)) := by
  obtain ⟨hnumber, hleast⟩ := chooses_lower.better_foldl hx xs
  exact ⟨mem_numbers.mpr ⟨chooses_lower.foldl_mem x xs, hnumber⟩, hleast⟩

theorem isMaximum_foldl (hx : x.isNaN = false) (xs : List (Binary f)) :
    IsMaximum (xs.foldl Box.upper x) (numbers (x :: xs)) := by
  obtain ⟨hnumber, hgreatest⟩ := chooses_upper.better_foldl hx xs
  exact ⟨mem_numbers.mpr ⟨chooses_upper.foldl_mem x xs, hnumber⟩, hgreatest⟩

end Binary

/-! ### The shells of a geometry -/

namespace Tree

mutual

/-- The coordinates of the shells are those of the geometry, as they are told. -/
theorem told_of_mem_shells : ∀ (t : Tree), ∀ c ∈ t.shells, ∃ form written, c = Form.told form written
  | .point form position, c, h => by
      rw [shells] at h
      split at h
      · cases h
      · exact ⟨form, position, List.mem_singleton.mp h⟩
  | .lineString form path, c, h => by
      rw [shells] at h
      obtain ⟨written, -, rfl⟩ := List.mem_map.mp h
      exact ⟨form, written, rfl⟩
  | .polygon form rings, c, h => by
      rw [shells] at h
      obtain ⟨written, -, rfl⟩ := List.mem_map.mp h
      exact ⟨form, written, rfl⟩
  | .collection _ _ items, c, h => by
      rw [shells] at h
      exact told_of_mem_shellsOfItems items c h

theorem told_of_mem_shellsOfItems :
    ∀ (items : List Tree), ∀ c ∈ shellsOfItems items, ∃ form written, c = Form.told form written
  | [], c, h => by cases h
  | item :: items, c, h => by
      rw [shellsOfItems, List.mem_append] at h
      rcases h with h | h
      · exact told_of_mem_shells item c h
      · exact told_of_mem_shellsOfItems items c h

end

mutual

/-- The geometry without inner rings, Z, M and SRIDs, most significant byte first throughout. -/
def outline : Tree → Tree
  | .point _ position => .point .plain (Envelope.corner position.x position.y)
  | .lineString _ path => .lineString .plain (path.map fun c => Envelope.corner c.x c.y)
  | .polygon _ rings =>
    .polygon .plain ((rings.take 1).map fun ring => ring.map fun c => Envelope.corner c.x c.y)
  | .collection _ c items => .collection .plain c (outlineOfItems items)

/-- The items of a collection without inner rings, Z, M and SRIDs. -/
def outlineOfItems : List Tree → List Tree
  | [] => []
  | item :: items => item.outline :: outlineOfItems items

end

mutual

/-- Inner rings, Z, M and SRIDs have no part in the shells, but for the Z and M of the shells. -/
theorem shells_outline : ∀ t : Tree, t.outline.shells = t.shells.map fun c => Envelope.corner c.x c.y
  | .point form position => by
      rw [outline, shells, shells]
      show (if (form.told position).isEmpty then [] else _) = _
      split <;> rfl
  | .lineString form path => by
      rw [outline, shells, shells, List.map_map, List.map_map]
      rfl
  | .polygon form [] => by
      rw [outline, shells, shells]
      rfl
  | .polygon form (ring :: rings) => by
      rw [outline, shells, shells]
      simp only [List.take_succ_cons, List.take_zero, List.map_cons, List.headD_cons, List.map_map]
      rfl
  | .collection _ _ items => by
      rw [outline, shells, shells]
      exact shellsOfItems_outline items

theorem shellsOfItems_outline : ∀ items : List Tree,
    shellsOfItems (outlineOfItems items) =
      (shellsOfItems items).map fun c => Envelope.corner c.x c.y
  | [] => rfl
  | item :: items => by
      rw [outlineOfItems, shellsOfItems, shellsOfItems, List.map_append, shells_outline item,
        shellsOfItems_outline items]

end

end Tree

/-! ### The bounds of an envelope -/

namespace Envelope

/-- An envelope is reached one bound at a time. -/
theorem foldl_reach_eq (e : Envelope) (cs : List Coordinate) :
    cs.foldl reach (some e) =
      some ⟨(cs.map Coordinate.x).foldl Box.lower e.minX,
        (cs.map Coordinate.x).foldl Box.upper e.maxX,
        (cs.map Coordinate.y).foldl Box.lower e.minY,
        (cs.map Coordinate.y).foldl Box.upper e.maxY⟩ := by
  induction cs generalizing e with
  | nil => rfl
  | cons c cs ih => exact ih (e.expand c.x c.y)

theorem around_cons (first : Coordinate) (rest : List Coordinate) :
    around (first :: rest) =
      some ⟨(rest.map Coordinate.x).foldl Box.lower first.x,
        (rest.map Coordinate.x).foldl Box.upper first.x,
        (rest.map Coordinate.y).foldl Box.lower first.y,
        (rest.map Coordinate.y).foldl Box.upper first.y⟩ :=
  foldl_reach_eq (.point first.x first.y) rest

/-- Z and M have no part in an envelope. -/
theorem around_map_corner (cs : List Coordinate) :
    around (cs.map fun c => corner c.x c.y) = around cs := by
  rw [around, List.foldl_map]
  rfl

/-- `low` and `high` are the bounds of an axis with the given ordinates: no numbers, if the first
ordinate is none, and else the one minimum and the one maximum of its numbers. -/
def AxisBounds (ordinates : List Double) (low high : Double) : Prop :=
  ∃ first rest, ordinates = first :: rest ∧
    (first.isNaN = true → low = .nan ∧ high = .nan) ∧
    (first.isNaN = false →
      (∀ x, Binary.IsMinimum x (Binary.numbers ordinates) ↔ x = low) ∧
        ∀ x, Binary.IsMaximum x (Binary.numbers ordinates) ↔ x = high)

theorem axisBounds_foldl {first : Double} {rest : List Double}
    (hcanonical : ∀ x ∈ first :: rest, x.canonical = x) :
    AxisBounds (first :: rest) (rest.foldl Box.lower first) (rest.foldl Box.upper first) := by
  refine ⟨first, rest, rfl, fun hnan => ?_, fun hnumber => ?_⟩
  · have hfirst : first = .nan :=
      (hcanonical first List.mem_cons_self).symm.trans (Binary.canonical_of_isNaN hnan)
    rw [Binary.chooses_lower.foldl_of_isNaN hnan, Binary.chooses_upper.foldl_of_isNaN hnan]
    exact ⟨hfirst, hfirst⟩
  · have hnumbers : ∀ x ∈ Binary.numbers (first :: rest), x.canonical = x :=
      fun x hx => hcanonical x (Binary.mem_numbers.mp hx).1
    exact ⟨fun _ => (Binary.isMinimum_foldl hnumber rest).iff_eq hnumbers,
      fun _ => (Binary.isMaximum_foldl hnumber rest).iff_eq hnumbers⟩

/-- What the shells of a tree say of its envelope: there is none if there are no shells, the axes
have the bounds of their ordinates, and all bounds are canonical. -/
theorem around_shells (t : Tree) :
    (around t.shells = none ↔ t.shells = []) ∧
      ∀ e ∈ around t.shells,
        AxisBounds (t.shells.map Coordinate.x) e.minX e.maxX ∧
          AxisBounds (t.shells.map Coordinate.y) e.minY e.maxY ∧ e.map Binary.canonical = e := by
  have hx : ∀ x ∈ t.shells.map Coordinate.x, x.canonical = x := by
    intro x hx
    obtain ⟨c, hc, rfl⟩ := List.mem_map.mp hx
    obtain ⟨form, written, rfl⟩ := t.told_of_mem_shells c hc
    exact Binary.canonical_canonical Double.one_lt_binade written.x
  have hy : ∀ y ∈ t.shells.map Coordinate.y, y.canonical = y := by
    intro y hy
    obtain ⟨c, hc, rfl⟩ := List.mem_map.mp hy
    obtain ⟨form, written, rfl⟩ := t.told_of_mem_shells c hc
    exact Binary.canonical_canonical Double.one_lt_binade written.y
  cases hshells : t.shells with
  | nil => exact ⟨iff_of_true rfl rfl, nofun⟩
  | cons first rest =>
    rw [hshells, List.map_cons] at hx hy
    rw [around_cons]
    refine ⟨iff_of_false nofun nofun, fun e he => ?_⟩
    obtain rfl := Option.some.inj he
    refine ⟨axisBounds_foldl hx, axisBounds_foldl hy, ?_⟩
    simp only [Box.map, hx _ (Binary.chooses_lower.foldl_mem _ _),
      hx _ (Binary.chooses_upper.foldl_mem _ _), hy _ (Binary.chooses_lower.foldl_mem _ _),
      hy _ (Binary.chooses_upper.foldl_mem _ _)]

/-- **The envelope of a geometry is the exact bounding box of its shells**, as far as these have
numbers.  Bytes are accepted that are the form of some valid tree.  For each tree of this form,
there is no envelope exactly if there are no shells.  Otherwise, each axis for itself, the bounds are
no numbers if the first coordinate of the shells has none there, and else the minimum and the maximum
of the numbers that the coordinates have there.  The bounds are canonical, and any other geometry
has the same envelope if it differs only in inner rings, Z, M, SRIDs and byte orders. -/
theorem envelope_bounds_shells {bytes : List UInt8}
    (haccepted : (Geometry.parse Recorder.flat bytes (.start ())).1 = .ok ()) :
    (∃ tree : Tree, tree.Valid ∧ tree.bytes = bytes) ∧
      ∀ tree : Tree, tree.Valid → tree.bytes = bytes →
        ∃ envelope : Option Envelope, Geometry.envelope bytes = .ok envelope ∧
          (envelope = none ↔ tree.shells = []) ∧
          (∀ e ∈ envelope,
            AxisBounds (tree.shells.map Coordinate.x) e.minX e.maxX ∧
              AxisBounds (tree.shells.map Coordinate.y) e.minY e.maxY ∧
              e.map Binary.canonical = e) ∧
          ∀ other : Tree, other.Valid → other.outline = tree.outline →
            Geometry.envelope other.bytes = .ok envelope := by
  obtain ⟨tree, hvalid, hbytes, -⟩ :=
    (Geometry.parse_eq_ok_iff Recorder.flat_isFlat).mp (Prod.ext haccepted rfl)
  refine ⟨⟨tree, hvalid, hbytes⟩, fun tree hvalid hbytes => ?_⟩
  obtain ⟨hempty, hbounds⟩ := around_shells tree
  refine ⟨around tree.shells, Geometry.envelope_eq_ok_iff.mpr ⟨tree, hvalid, hbytes, rfl⟩, hempty,
    hbounds, fun other hother houtline => ?_⟩
  refine Geometry.envelope_eq_ok_iff.mpr ⟨other, hother, rfl, ?_⟩
  rw [← around_map_corner tree.shells, ← around_map_corner other.shells, ← Tree.shells_outline,
    ← Tree.shells_outline, houtline]

/-- A collection whose shells begin with no number for X, and whose polygon has Z and a hole that
reaches further than they do: a line string from (NaN, 2) to (1, -0), the polygon around (3, 5) and
the point (1, -1). -/
def holed : Tree :=
  .collection { Form.plain with srid := some 4326 } .geometryCollection
    [.lineString .plain [corner .nan (.ofBits 0x4000000000000000),
        corner (.ofBits 0x3ff0000000000000) .negativeZero],
      .polygon { Form.plain with zFlag := true }
        [[corner (.ofBits 0x4008000000000000) (.ofBits 0x4014000000000000)],
          [corner (.ofBits 0x4022000000000000) (.ofBits 0x4022000000000000)]],
      .point .plain (corner (.ofBits 0x3ff0000000000000) (.ofBits 0xbff0000000000000))]

theorem envelope_bounds_shells_holed :
    (Geometry.parse Recorder.flat holed.bytes (.start ())).1 = .ok () ∧
      holed.Valid ∧ holed.shells.map Coordinate.x =
        [.nan, .ofBits 0x3ff0000000000000, .ofBits 0x4008000000000000,
          .ofBits 0x3ff0000000000000] ∧
      ∃ e : Envelope, Geometry.envelope holed.bytes = .ok (some e) ∧
        AxisBounds (holed.shells.map Coordinate.x) e.minX e.maxX ∧
        AxisBounds (holed.shells.map Coordinate.y) e.minY e.maxY ∧
        e = ⟨.nan, .nan, .ofBits 0xbff0000000000000, .ofBits 0x4014000000000000⟩ := by
  have accepted : (Geometry.parse Recorder.flat holed.bytes (.start ())).1 = .ok () := by
    decide +kernel
  have valid : holed.Valid := by
    refine ⟨?_, by decide⟩
    simp [holed, Tree.WellFormed, Tree.WellFormedItems, Tree.AgreesWith, Tree.HasKind, Tree.form,
      Form.plain, Tree.Countable, Collection.itemKind?, UInt32.size]
  have hread : Geometry.envelope holed.bytes =
      .ok (some ⟨.nan, .nan, .ofBits 0xbff0000000000000, .ofBits 0x4014000000000000⟩) := by
    decide +kernel
  obtain ⟨envelope, henvelope, -, hbounds, -⟩ :=
    (envelope_bounds_shells accepted).2 holed valid rfl
  obtain rfl : envelope = _ := Except.ok.inj (henvelope.symm.trans hread)
  obtain ⟨hx, hy, -⟩ := hbounds _ rfl
  exact ⟨accepted, valid, by decide +kernel, _, hread, hx, hy, rfl⟩

end Envelope

end GeometryIndex

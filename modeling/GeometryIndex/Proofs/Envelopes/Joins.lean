import GeometryIndex.Proofs.Envelopes.Bounds
import Mathlib.Data.List.ReduceOption

/-!
# Envelopes — the least upper bound of many

Joining boxes that have no NaN chooses, bound by bound, the minimum and the maximum of what there is
to choose from (`Box.IsHull`).  Such a box is the least one that covers all that were joined, and as
a number each of its bounds depends on nothing but the set of them: not on their order, not on how
often one occurs, and not on what was joined with what first (`Box.Joining`).

As a bit pattern a bound may depend on all that, since the two zeros are one number: the first of
them stays (`Box.union`).

* `Box.HullOf.join`: what one join makes of two hulls;
* `Box.Joining.hullOf`, `Box.hullOf_foldl`: hence what is made of many, in any way or in order;
* `Envelope.joined_least_upper_bound`: hence the joined envelope is the least upper bound.
-/

namespace GeometryIndex

/-! ### The best of two bests -/

namespace Binary

variable {f : Format} {x y : Binary f} {xs ys : List (Binary f)}

theorem isNaN_of_atMost (h : x.atMost y = true) : x.isNaN = false ∧ y.isNaN = false :=
  ⟨(atMost_iff.mp h).1, (atMost_iff.mp h).2.1⟩

/-- Numbers that are at most each other are equal. -/
theorem equals_of_atMost (hxy : x.atMost y = true) (hyx : y.atMost x = true) :
    x.equals y = true := by
  obtain ⟨hx, hy, hle⟩ := atMost_iff.mp hxy
  exact equals_iff.mpr ⟨hx, hy, Int.le_antisymm hle (atMost_iff.mp hyx).2.2⟩

/-- The better of the best of some and the best of others is the best of all of them. -/
theorem Chooses.best_append {choose : Binary f → Binary f → Binary f}
    {better : Binary f → Binary f → Prop} (h : Chooses choose better) (hx : x.isNaN = false)
    (hy : y.isNaN = false) (hxs : x ∈ xs ∧ ∀ z ∈ xs, better x z)
    (hys : y ∈ ys ∧ ∀ z ∈ ys, better y z) :
    choose x y ∈ xs ++ ys ∧ ∀ z ∈ xs ++ ys, better (choose x y) z := by
  rcases h.picks hx hy with ⟨heq, hbetter⟩ | ⟨heq, hbetter⟩ <;> rw [heq]
  · refine ⟨List.mem_append_left ys hxs.1, fun z hz => ?_⟩
    rcases List.mem_append.mp hz with hz | hz
    · exact hxs.2 z hz
    · exact h.trans hbetter (hys.2 z hz)
  · refine ⟨List.mem_append_right xs hys.1, fun z hz => ?_⟩
    rcases List.mem_append.mp hz with hz | hz
    · exact h.trans hbetter (hxs.2 z hz)
    · exact hys.2 z hz

theorem IsMinimum.isNaN (h : IsMinimum x xs) : x.isNaN = false :=
  (isNaN_of_atMost (h.2 x h.1)).1

theorem IsMaximum.isNaN (h : IsMaximum x xs) : x.isNaN = false :=
  (isNaN_of_atMost (h.2 x h.1)).1

theorem IsMinimum.append (hx : IsMinimum x xs) (hy : IsMinimum y ys) :
    IsMinimum (Box.lower x y) (xs ++ ys) :=
  chooses_lower.best_append hx.isNaN hy.isNaN hx hy

theorem IsMaximum.append (hx : IsMaximum x xs) (hy : IsMaximum y ys) :
    IsMaximum (Box.upper x y) (xs ++ ys) :=
  chooses_upper.best_append hx.isNaN hy.isNaN hx hy

/-- As numbers, minima of the same numbers are equal. -/
theorem IsMinimum.equals (hx : IsMinimum x xs) (hy : IsMinimum y ys) (h : ∀ z, z ∈ xs ↔ z ∈ ys) :
    x.equals y = true :=
  equals_of_atMost (hx.2 y ((h y).mpr hy.1)) (hy.2 x ((h x).mp hx.1))

/-- As numbers, maxima of the same numbers are equal. -/
theorem IsMaximum.equals (hx : IsMaximum x xs) (hy : IsMaximum y ys) (h : ∀ z, z ∈ xs ↔ z ∈ ys) :
    x.equals y = true :=
  equals_of_atMost (hy.2 x ((h x).mp hx.1)) (hx.2 y ((h y).mpr hy.1))

end Binary

namespace Box

variable {f : Format} {a b c hull other : Box f} {as bs : List (Box f)}

/-! ### Hulls -/

/-- No bound is a NaN. -/
structure IsNumeric (b : Box f) : Prop where
  minX : b.minX.isNaN = false
  maxX : b.maxX.isNaN = false
  minY : b.minY.isNaN = false
  maxY : b.maxY.isNaN = false

/-- `a` reaches at least as far as `b` on every side. -/
structure Covers (a b : Box f) : Prop where
  minX : a.minX.atMost b.minX = true
  maxX : b.maxX.atMost a.maxX = true
  minY : a.minY.atMost b.minY = true
  maxY : b.maxY.atMost a.maxY = true

/-- The lower bounds are the minima of the lower bounds of the members, and the upper bounds the
maxima of their upper bounds. -/
structure IsHull (hull : Box f) (members : List (Box f)) : Prop where
  minX : Binary.IsMinimum hull.minX (members.map minX)
  maxX : Binary.IsMaximum hull.maxX (members.map maxX)
  minY : Binary.IsMinimum hull.minY (members.map minY)
  maxY : Binary.IsMaximum hull.maxY (members.map maxY)

namespace IsHull

theorem singleton (h : b.IsNumeric) : b.IsHull [b] := by
  have alone : ∀ {x : Binary f}, x.isNaN = false →
      ∀ y ∈ [x], x.atMost y = true ∧ y.atMost x = true := by
    intro x hx y hy
    obtain rfl := List.mem_singleton.mp hy
    exact ⟨Binary.atMost_self.mpr hx, Binary.atMost_self.mpr hx⟩
  exact ⟨⟨List.mem_singleton_self _, fun y hy => (alone h.minX y hy).1⟩,
    ⟨List.mem_singleton_self _, fun y hy => (alone h.maxX y hy).2⟩,
    ⟨List.mem_singleton_self _, fun y hy => (alone h.minY y hy).1⟩,
    ⟨List.mem_singleton_self _, fun y hy => (alone h.maxY y hy).2⟩⟩

/-- The union of two hulls is the hull of all their members. -/
theorem union (ha : a.IsHull as) (hb : b.IsHull bs) : (a.union b).IsHull (as ++ bs) := by
  constructor <;> rw [List.map_append]
  · exact ha.minX.append hb.minX
  · exact ha.maxX.append hb.maxX
  · exact ha.minY.append hb.minY
  · exact ha.maxY.append hb.maxY

/-- As numbers, hulls of the same members are equal. -/
theorem equals (ha : a.IsHull as) (hb : b.IsHull bs) (h : ∀ c, c ∈ as ↔ c ∈ bs) :
    a.equals b = true := by
  have same : ∀ (bound : Box f → Binary f) x, x ∈ as.map bound ↔ x ∈ bs.map bound :=
    fun bound x => by simp only [List.mem_map, h]
  simp only [Box.equals, Bool.and_eq_true]
  exact ⟨⟨⟨ha.minX.equals hb.minX (same _), ha.maxX.equals hb.maxX (same _)⟩,
    ha.minY.equals hb.minY (same _)⟩, ha.maxY.equals hb.maxY (same _)⟩

theorem ne_nil (h : hull.IsHull as) : as ≠ [] := by
  rintro rfl
  cases h.minX.1

/-- A hull covers its members. -/
theorem covers (h : hull.IsHull as) (hb : b ∈ as) : hull.Covers b where
  minX := h.minX.2 _ (List.mem_map_of_mem hb)
  maxX := h.maxX.2 _ (List.mem_map_of_mem hb)
  minY := h.minY.2 _ (List.mem_map_of_mem hb)
  maxY := h.maxY.2 _ (List.mem_map_of_mem hb)

/-- What covers all members covers their hull: each bound of the hull is that of some member. -/
theorem least (h : hull.IsHull as) (hcovers : ∀ b ∈ as, other.Covers b) : other.Covers hull := by
  obtain ⟨b₁, h₁, e₁⟩ := List.mem_map.mp h.minX.1
  obtain ⟨b₂, h₂, e₂⟩ := List.mem_map.mp h.maxX.1
  obtain ⟨b₃, h₃, e₃⟩ := List.mem_map.mp h.minY.1
  obtain ⟨b₄, h₄, e₄⟩ := List.mem_map.mp h.maxY.1
  exact ⟨e₁ ▸ (hcovers b₁ h₁).minX, e₂ ▸ (hcovers b₂ h₂).maxX, e₃ ▸ (hcovers b₃ h₃).minY,
    e₄ ▸ (hcovers b₄ h₄).maxY⟩

end IsHull

theorem intersects_comm (a b : Box f) : a.intersects b = b.intersects a := by
  unfold intersects
  cases b.minX.atMost a.maxX <;> cases a.minX.atMost b.maxX <;> cases b.minY.atMost a.maxY <;>
    cases a.minY.atMost b.maxY <;> rfl

/-- What meets a box meets every box that covers it. -/
theorem Covers.intersects (h : a.Covers b) (hmeets : other.intersects b = true) :
    other.intersects a = true := by
  simp only [Box.intersects, Bool.and_eq_true] at hmeets ⊢
  obtain ⟨⟨⟨h₁, h₂⟩, h₃⟩, h₄⟩ := hmeets
  exact ⟨⟨⟨Binary.atMost_trans h.minX h₁, Binary.atMost_trans h₂ h.maxX⟩,
    Binary.atMost_trans h.minY h₃⟩, Binary.atMost_trans h₄ h.maxY⟩

/-! ### Joining what is present -/

/-- The hull of the members, absent if there are none. -/
def HullOf : Option (Box f) → List (Box f) → Prop
  | none, members => members = []
  | some hull, members => hull.IsHull members

theorem hullOf_operand {operand : Option (Box f)} (h : ∀ b ∈ operand, b.IsNumeric) :
    HullOf operand operand.toList := by
  cases operand with
  | none => rfl
  | some b => exact .singleton (h b rfl)

/-- **One join**: the hull of the members of both. -/
theorem HullOf.join {p q : Option (Box f)} (hp : HullOf p as) (hq : HullOf q bs) :
    HullOf (Box.join p q) (as ++ bs) := by
  cases p with
  | none =>
    obtain rfl : as = [] := hp
    exact hq
  | some a =>
    cases q with
    | none =>
      obtain rfl : bs = [] := hq
      rw [List.append_nil]
      exact hp
    | some b => exact hp.union hq

theorem HullOf.eq_none_iff {p : Option (Box f)} (hp : HullOf p as) : p = none ↔ as = [] := by
  cases p with
  | none => exact iff_of_true rfl hp
  | some a => exact iff_of_false nofun hp.ne_nil

/-- As numbers, hulls of the same members are equal, if there are any. -/
theorem HullOf.rel {p q : Option (Box f)} (hp : HullOf p as) (hq : HullOf q bs)
    (h : ∀ c, c ∈ as ↔ c ∈ bs) : Option.Rel (fun a b => a.equals b = true) p q := by
  have empty : as = [] ↔ bs = [] := by
    simp only [List.eq_nil_iff_forall_not_mem, h]
  cases p with
  | none =>
    obtain rfl := hq.eq_none_iff.mpr (empty.mp hp)
    exact .none
  | some a =>
    cases q with
    | none => exact absurd (empty.mpr hq) (IsHull.ne_nil hp)
    | some b => exact .some (IsHull.equals hp hq h)

/-- Joining one after the other, in order. -/
theorem hullOf_foldl {operands : List (Option (Box f))} (h : ∀ b, some b ∈ operands → b.IsNumeric)
    {start : Option (Box f)} (hstart : HullOf start as) :
    HullOf (operands.foldl Box.join start) (as ++ operands.reduceOption) := by
  induction operands generalizing start as with
  | nil => rwa [List.reduceOption_nil, List.append_nil]
  | cons operand operands ih =>
    have next := hstart.join (hullOf_operand fun b hb => h b (hb ▸ List.mem_cons_self))
    have rest := ih (fun b hb => h b (List.mem_cons_of_mem _ hb)) next
    rwa [← List.reduceOption_singleton, List.append_assoc, ← List.reduceOption_append,
      List.singleton_append] at rest

/-- A way to join absent and present boxes, two at a time. -/
inductive Joining (f : Format)
  | operand (box : Option (Box f))
  | join (left right : Joining f)

namespace Joining

/-- What comes of it. -/
def result : Joining f → Option (Box f)
  | .operand box => box
  | .join left right => Box.join left.result right.result

/-- What is joined, from left to right. -/
def operands : Joining f → List (Option (Box f))
  | .operand box => [box]
  | .join left right => left.operands ++ right.operands

/-- Joining in any way. -/
theorem hullOf (j : Joining f) (h : ∀ b, some b ∈ j.operands → b.IsNumeric) :
    HullOf j.result j.operands.reduceOption := by
  induction j with
  | operand box =>
    rw [operands, List.reduceOption_singleton]
    exact hullOf_operand fun b hb => h b (List.mem_singleton.mpr hb.symm)
  | join left right ihLeft ihRight =>
    rw [operands, List.reduceOption_append]
    exact (ihLeft fun b hb => h b (List.mem_append_left _ hb)).join
      (ihRight fun b hb => h b (List.mem_append_right _ hb))

end Joining

end Box

namespace Envelope

/-- **Joining envelopes gives their least upper bound**, whatever the order, if no bound of theirs
is a NaN.  Joined one after the other from nothing, they come to nothing exactly if none is present.
Otherwise the bounds are the minima and the maxima of those of the members.  The joined envelope
covers every member, is covered by everything that covers all of them, and is met by everything that
meets one of them.  A list with the same members in another order or number comes to the same
numbers, and so does every other way to join them. -/
theorem joined_least_upper_bound (members : List (Option Envelope))
    (numeric : ∀ e, some e ∈ members → Box.IsNumeric e) :
    (members.foldl Box.join none = none ↔ ∀ e, some e ∉ members) ∧
      (∀ joined, members.foldl Box.join none = some joined →
        Box.IsHull joined members.reduceOption ∧
          (∀ e, some e ∈ members → Box.Covers joined e) ∧
          (∀ other, (∀ e, some e ∈ members → Box.Covers other e) → Box.Covers other joined) ∧
          ∀ other e, some e ∈ members →
            (Box.intersects other e = true → Box.intersects other joined = true) ∧
              (Box.intersects e other = true → Box.intersects joined other = true)) ∧
      (∀ others : List (Option Envelope), (∀ e, some e ∈ others ↔ some e ∈ members) →
        Option.Rel (fun a b => a.equals b = true) (others.foldl Box.join none)
          (members.foldl Box.join none)) ∧
      ∀ joining : Box.Joining .double, (∀ e, some e ∈ joining.operands ↔ some e ∈ members) →
        Option.Rel (fun a b => a.equals b = true) joining.result
          (members.foldl Box.join none) := by
  have start : Box.HullOf (none : Option Envelope) [] := rfl
  have hull := Box.hullOf_foldl numeric start
  rw [List.nil_append] at hull
  refine ⟨?_, fun joined hjoined => ?_, fun others same => ?_, fun joining same => ?_⟩
  · simp only [hull.eq_none_iff, List.eq_nil_iff_forall_not_mem, List.reduceOption_mem_iff]
  · rw [hjoined] at hull
    have covers : ∀ e, some e ∈ members → Box.Covers joined e :=
      fun e he => Box.IsHull.covers hull (List.reduceOption_mem_iff.mpr he)
    refine ⟨hull, covers, fun other hother => ?_, fun other e he => ⟨?_, ?_⟩⟩
    · exact Box.IsHull.least hull fun e he => hother e (List.reduceOption_mem_iff.mp he)
    · exact (covers e he).intersects
    · rw [Box.intersects_comm e, Box.intersects_comm joined]
      exact (covers e he).intersects
  · have hull' := Box.hullOf_foldl (fun e he => numeric e ((same e).mp he)) start
    rw [List.nil_append] at hull'
    exact hull'.rel hull fun e => by simp only [List.reduceOption_mem_iff, same]
  · exact (joining.hullOf fun e he => numeric e ((same e).mp he)).rel hull
      fun e => by simp only [List.reduceOption_mem_iff, same]

/-- X from 0 to 1, Y from 2 to 3. -/
def fromZero : Envelope :=
  ⟨.zero, .ofBits 0x3ff0000000000000, .ofBits 0x4000000000000000, .ofBits 0x4008000000000000⟩

/-- X from -0 to 3, Y from -1 to 2. -/
def fromMinus : Envelope :=
  ⟨.negativeZero, .ofBits 0x4008000000000000, .ofBits 0xbff0000000000000,
    .ofBits 0x4000000000000000⟩

/-- Two envelopes whose least X are the two zeros: which of them is the bound depends on the order,
but as numbers the bounds are the same. -/
theorem joined_least_upper_bound_zeros :
    (∀ e, some e ∈ [none, some fromZero, some fromMinus] → Box.IsNumeric e) ∧
      ∃ joined joined' : Envelope,
        [none, some fromZero, some fromMinus].foldl Box.join none = some joined ∧
          joined = ⟨.zero, fromMinus.maxX, fromMinus.minY, fromZero.maxY⟩ ∧
          Box.IsHull joined [fromZero, fromMinus] ∧
          [some fromMinus, some fromZero, none, some fromMinus].foldl Box.join none = some joined' ∧
          joined' = ⟨.negativeZero, fromMinus.maxX, fromMinus.minY, fromZero.maxY⟩ ∧
          joined'.equals joined = true ∧
          Option.Rel (fun a b => a.equals b = true)
            (Box.join (Box.join (some fromZero) (some fromMinus)) (Box.join none (some fromZero)))
            (some joined) := by
  have numeric : ∀ e, some e ∈ [none, some fromZero, some fromMinus] → Box.IsNumeric e := by
    intro e he
    have : e = fromZero ∨ e = fromMinus := by simpa using he
    rcases this with rfl | rfl <;> exact ⟨by decide, by decide, by decide, by decide⟩
  obtain ⟨-, hull, lists, joinings⟩ := joined_least_upper_bound _ numeric
  have joined : [none, some fromZero, some fromMinus].foldl Box.join none =
      some ⟨.zero, fromMinus.maxX, fromMinus.minY, fromZero.maxY⟩ := by decide +kernel
  have joined' : [some fromMinus, some fromZero, none, some fromMinus].foldl Box.join none =
      some ⟨.negativeZero, fromMinus.maxX, fromMinus.minY, fromZero.maxY⟩ := by decide +kernel
  have list := lists [some fromMinus, some fromZero, none, some fromMinus] fun e => by
    simp only [List.mem_cons, List.not_mem_nil, or_false, reduceCtorEq, false_or]
    exact ⟨fun h => by tauto, fun h => by tauto⟩
  have joining := joinings
    (.join (.join (.operand (some fromZero)) (.operand (some fromMinus)))
      (.join (.operand none) (.operand (some fromZero)))) fun e => by
    simp only [Box.Joining.operands, List.mem_cons, List.mem_append, List.not_mem_nil, or_false,
      reduceCtorEq, false_or]
    exact ⟨fun h => by tauto, fun h => by tauto⟩
  rw [joined] at joining
  rw [joined, joined'] at list
  cases list with
  | some equal =>
    exact ⟨numeric, _, _, joined, rfl, (hull _ joined).1, joined', rfl, equal, joining⟩

end Envelope

end GeometryIndex

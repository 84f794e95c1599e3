import GeometryIndex.Geometry.Walk

/-!
# Reading — walks in step

Two walks agree if they get the same out of every input, and lead from related states to related
ones where they succeed (`Walk.Agree`).  Agreement passes through the pieces that walks are put
together from, so the walks of two targets agree as soon as the targets do (`Target.Relates`): they
keep states related through everything they are told, and through every item, whether they separate
it or not.

* `Geometry.walk_agree`: by induction on the levels that are left;
* `Geometry.parse_agree`: hence for whole inputs.
-/

namespace GeometryIndex

universe u v w

/-! ### Items -/

namespace Target

variable {σ : Type u}

/-- The state that is told an item: one of its own, or that of the collection. -/
def enter (t : Target σ) (index total : Nat) (state : σ) : σ :=
  (t.startItem index total state).2.getD (t.startItem index total state).1

/-- The state of the collection after an item, where `state` was the one before it and `last` is the
one that the item was told to. -/
def leave (t : Target σ) (index total : Nat) (state last : σ) : σ :=
  match t.startItem index total state with
  | (_, none) => t.endItem none index total last
  | (collection, some _) => t.endItem (some last) index total collection

end Target

namespace Geometry

variable {σ : Type u} {t : Target σ} {item : Walk σ} {total index : Nat} {input : Input} {state : σ}

theorem result_walkItem :
    (walkItem t item total index input state).result =
      (item input (t.enter index total state)).result := by
  unfold walkItem Target.enter
  cases t.startItem index total state with
  | mk collection own =>
    cases own with
    | none =>
      show (Walk.andThen item _ input collection).result = (item input collection).result
      cases hitem : (item input collection).result with
      | ok rest => rw [Walk.andThen_of_ok hitem]; rfl
      | error fault => rw [Walk.andThen_of_error hitem]
    | some own => rfl

theorem state_walkItem {rest : Input}
    (hok : (item input (t.enter index total state)).result = .ok rest) :
    (walkItem t item total index input state).state =
      t.leave index total state (item input (t.enter index total state)).state := by
  unfold Target.enter at hok
  unfold walkItem Target.leave Target.enter
  cases hstart : t.startItem index total state with
  | mk collection own =>
    rw [hstart] at hok
    cases own with
    | none =>
      simp only [Option.getD_none] at hok ⊢
      rw [Walk.andThen_of_ok hok]
      rfl
    | some own =>
      simp only [Option.getD_some] at hok ⊢
      rw [hok]

end Geometry

/-! ### Walks that agree -/

namespace Walk

variable {σ : Type u} {τ : Type v} {R : σ → τ → Prop}

/-- The same result, whatever the states, and related states after a success. -/
def Agree (R : σ → τ → Prop) (w : Walk σ) (w' : Walk τ) : Prop :=
  ∀ input x y, R x y → (w input x).result = (w' input y).result ∧
    ∀ rest, (w input x).result = .ok rest → R (w input x).state (w' input y).state

namespace Agree

theorem fail (fault : DecodeFault) : Agree R (.fail fault) (.fail fault) :=
  fun _ _ _ _ => ⟨rfl, fun _ => nofun⟩

theorem tell {f : σ → σ} {g : τ → τ} (h : ∀ x y, R x y → R (f x) (g y)) :
    Agree R (.tell f) (.tell g) :=
  fun _ x y hxy => ⟨rfl, fun _ _ => h x y hxy⟩

theorem read {α : Type} {r : Read α} {next : α → Walk σ} {next' : α → Walk τ}
    (h : ∀ a, Agree R (next a) (next' a)) : Agree R (.read r next) (.read r next') := by
  intro input x y hxy
  cases hread : r input with
  | error fault =>
    rw [read_of_error hread, read_of_error hread]
    exact ⟨rfl, fun _ => nofun⟩
  | ok p =>
    obtain ⟨a, rest⟩ := p
    rw [read_of_ok hread, read_of_ok hread]
    exact h a rest x y hxy

theorem andThen {first second : Walk σ} {first' second' : Walk τ} (h₁ : Agree R first first')
    (h₂ : Agree R second second') : Agree R (first.andThen second) (first'.andThen second') := by
  intro input x y hxy
  obtain ⟨hresult, hstate⟩ := h₁ input x y hxy
  cases hfirst : (first input x).result with
  | error fault =>
    rw [andThen_of_error hfirst, andThen_of_error (hresult.symm.trans hfirst)]
    exact ⟨rfl, fun _ => nofun⟩
  | ok rest =>
    rw [andThen_of_ok hfirst, andThen_of_ok (hresult.symm.trans hfirst)]
    exact h₂ rest _ _ (hstate rest hfirst)

theorem each {body : Nat → Walk σ} {body' : Nat → Walk τ}
    (h : ∀ index, Agree R (body index) (body' index)) (start count : Nat) :
    Agree R (.each body start count) (.each body' start count) := by
  induction count generalizing start with
  | zero => exact tell fun _ _ => id
  | succ count ih => exact (h start).andThen (ih (start + 1))

end Agree

end Walk

/-! ### Targets that agree -/

variable {σ : Type u} {τ : Type v} {ι : Type w} {R : ι → σ → τ → Prop} {s : Target σ} {t : Target τ}

/-- Two targets keep their states related through whatever they are told.  How states are related
may be another matter inside an item than outside, which is what the relations of the family are
for. -/
structure Target.Relates (R : ι → σ → τ → Prop) (s : Target σ) (t : Target τ) : Prop where
  startPoint : ∀ a srid x y, R a x y → R a (s.startPoint srid x) (t.startPoint srid y)
  startLineString : ∀ a srid n x y,
    R a x y → R a (s.startLineString srid n x) (t.startLineString srid n y)
  startPolygon : ∀ a srid inner n x y,
    R a x y → R a (s.startPolygon srid inner n x) (t.startPolygon srid inner n y)
  startInnerRing : ∀ a n x y, R a x y → R a (s.startInnerRing n x) (t.startInnerRing n y)
  endPolygon : ∀ a x y, R a x y → R a (s.endPolygon x) (t.endPolygon y)
  startCollection : ∀ a c srid n x y,
    R a x y → R a (s.startCollection c srid n x) (t.startCollection c srid n y)
  item : ∀ a index total x y, R a x y →
    ∃ b, R b (s.enter index total x) (t.enter index total y) ∧
      ∀ x' y', R b x' y' → R a (s.leave index total x x') (t.leave index total y y')
  endCollection : ∀ a c x y, R a x y → R a (s.endCollection c x) (t.endCollection c y)
  addCoordinate : ∀ a c index total x y,
    R a x y → R a (s.addCoordinate c index total x) (t.addCoordinate c index total y)

/-- Any two targets keep their states unrelated. -/
theorem Target.relates_unrelated (s : Target σ) (t : Target τ) :
    s.Relates (fun (_ : Unit) _ _ => True) t where
  startPoint _ _ _ _ := id
  startLineString _ _ _ _ _ := id
  startPolygon _ _ _ _ _ _ := id
  startInnerRing _ _ _ _ := id
  endPolygon _ _ _ := id
  startCollection _ _ _ _ _ _ := id
  item _ _ _ _ _ _ := ⟨(), trivial, fun _ _ => id⟩
  endCollection _ _ _ _ := id
  addCoordinate _ _ _ _ _ _ := id

namespace Geometry

open Walk

/-! ### The parts of a geometry -/

theorem walkCoordinates_agree (h : s.Relates R t) (a : ι) (header : Header) (total : Nat) :
    Agree (R a) (walkCoordinates s header total) (walkCoordinates t header total) :=
  .each (fun index => .read fun c => .tell (h.addCoordinate a c index total)) 0 total

theorem walkPoint_agree (h : s.Relates R t) (a : ι) (header : Header) :
    Agree (R a) (walkPoint s header) (walkPoint t header) := by
  refine .andThen (.tell (h.startPoint a header.srid)) (.read fun c => ?_)
  by_cases hempty : c.isEmpty
  · rw [if_pos hempty, if_pos hempty]
    exact .tell fun _ _ => id
  · rw [if_neg hempty, if_neg hempty]
    exact .tell (h.addCoordinate a c 0 1)

theorem walkLineString_agree (h : s.Relates R t) (a : ι) (header : Header) :
    Agree (R a) (walkLineString s header) (walkLineString t header) :=
  .read fun n => .andThen (.tell (h.startLineString a header.srid n))
    (walkCoordinates_agree h a header n)

theorem walkInnerRing_agree (h : s.Relates R t) (a : ι) (header : Header) :
    Agree (R a) (walkInnerRing s header) (walkInnerRing t header) :=
  .read fun n => .andThen (.tell (h.startInnerRing a n)) (walkCoordinates_agree h a header n)

theorem walkPolygon_agree (h : s.Relates R t) (a : ι) (header : Header) :
    Agree (R a) (walkPolygon s header) (walkPolygon t header) := by
  refine .read fun rings => ?_
  cases rings with
  | zero => exact .tell (h.startPolygon a header.srid 0 0)
  | succ inner =>
    refine .read fun n => .andThen (.tell (h.startPolygon a header.srid inner n)) <|
      .andThen (walkCoordinates_agree h a header n) (.andThen ?_ (.tell (h.endPolygon a)))
    exact .each (fun _ => walkInnerRing_agree h a header) 0 inner

/-- An item is told to states that are related, and leaves such states. -/
theorem walkItem_agree (h : s.Relates R t) {item : Walk σ} {item' : Walk τ}
    (hitem : ∀ a, Agree (R a) item item') (a : ι) (total index : Nat) :
    Agree (R a) (walkItem s item total index) (walkItem t item' total index) := by
  intro input x y hxy
  obtain ⟨b, henter, hleave⟩ := h.item a index total x y hxy
  obtain ⟨hresult, hstate⟩ := hitem b input _ _ henter
  rw [result_walkItem, result_walkItem]
  refine ⟨hresult, fun rest hok => ?_⟩
  rw [state_walkItem hok, state_walkItem (hresult.symm.trans hok)]
  exact hleave _ _ (hstate rest hok)

theorem walkCollection_agree (h : s.Relates R t) {item : Walk σ} {item' : Walk τ}
    (hitem : ∀ a, Agree (R a) item item') (a : ι) (header : Header) (c : Collection) :
    Agree (R a) (walkCollection s header c item) (walkCollection t header c item') :=
  .read fun n => .andThen (.tell (h.startCollection a c header.srid n)) <|
    .andThen (.each (walkItem_agree h hitem a n) 0 n) (.tell (h.endCollection a c))

/-! ### Geometries -/

/-- **The walks of targets that agree agree.** -/
theorem walk_agree (h : s.Relates R t) (level : Nat) (a : ι) (outer : Option Int32)
    (expected : Option Kind) :
    Agree (R a) (walk s level outer expected) (walk t level outer expected) := by
  induction level generalizing a outer expected with
  | zero => exact .fail .nesting
  | succ level ih =>
    refine .read fun header => ?_
    cases header.kind with
    | point => exact walkPoint_agree h a header
    | lineString => exact walkLineString_agree h a header
    | polygon => exact walkPolygon_agree h a header
    | collection c =>
      exact walkCollection_agree h (fun b => ih b (some header.srid) c.itemKind?) a header c

theorem parse_result (t : Target τ) (bytes : List UInt8) (y : τ) :
    (parse t bytes y).1 =
      ((walk t Tree.room none none (.ofBytes bytes) y).result >>= fun rest =>
        if rest.remaining = 0 then pure () else throw (.trailing rest.remaining)) := rfl

/-- Targets that agree get the same result from a whole input, and end up in related states if it
is accepted. -/
theorem parse_agree (h : s.Relates R t) {a : ι} {x : σ} {y : τ} (hxy : R a x y)
    (bytes : List UInt8) :
    (parse s bytes x).1 = (parse t bytes y).1 ∧
      ((parse s bytes x).1 = .ok () → R a (parse s bytes x).2 (parse t bytes y).2) := by
  obtain ⟨hresult, hstate⟩ :=
    walk_agree h Tree.room a none none (.ofBytes bytes) x y hxy
  rw [parse_result, parse_result, ← hresult]
  refine ⟨rfl, fun hok => ?_⟩
  cases hwalk : (walk s Tree.room none none (.ofBytes bytes) x).result with
  | error fault =>
    rw [hwalk] at hok
    cases hok
  | ok rest => exact hstate rest hwalk

end Geometry

end GeometryIndex

import GeometryIndex.Geometry.Recorder
import GeometryIndex.Proofs.Reading.Passage

/-!
# Reading — walks that accept a language

`w.Reads t Fits bytes events` says of a walk `w` what it accepts and what it tells: it succeeds
exactly when the input begins with `bytes a` for some `a` that `Fits`, and then the target `t` has
been told `events a`, in order.  A walk is built from a few pieces, and so is its language:

* `Reads.tell`, `Reads.andThen`, `Reads.tell_andThen`, `Reads.andThen_tell`: what is told alone,
  before, or after;
* `Reads.each`: a repetition accepts the lists whose elements its body accepts;
* `Reads.count`: a count before it accepts what is countable, since whatever is made of so many
  elements has room for them;
* `Reads.map`, `Reads.congr`: the same language over another type, or described otherwise.
-/

namespace GeometryIndex

universe u

/-! ### Telling events to a target that gives no item a state of its own -/

namespace Target

variable {σ : Type u}

/-- One event told to a target that separates no items. -/
def tell (t : Target σ) : Event → σ → σ
  | .point srid => t.startPoint srid
  | .lineString srid n => t.startLineString srid n
  | .polygon srid inner n => t.startPolygon srid inner n
  | .innerRing n => t.startInnerRing n
  | .endPolygon => t.endPolygon
  | .collection c srid n => t.startCollection c srid n
  | .item index total => fun state => (t.startItem index total state).1
  | .endItem index total _ => t.endItem none index total
  | .endCollection c => t.endCollection c
  | .coordinate c index total => t.addCoordinate c index total

/-- Events told in order. -/
def tellAll (t : Target σ) (events : List Event) (state : σ) : σ :=
  events.foldl (fun state e => t.tell e state) state

@[simp] theorem tellAll_nil (t : Target σ) (state : σ) : t.tellAll [] state = state := rfl

@[simp] theorem tellAll_cons (t : Target σ) (e : Event) (events : List Event) (state : σ) :
    t.tellAll (e :: events) state = t.tellAll events (t.tell e state) := rfl

@[simp] theorem tellAll_append (t : Target σ) (first second : List Event) (state : σ) :
    t.tellAll (first ++ second) state = t.tellAll second (t.tellAll first state) :=
  List.foldl_append

end Target

namespace Walk

variable {σ : Type u} {α β : Type} {t : Target σ}

/-! ### Successful runs -/

theorem tell_eq_ok_iff {f : σ → σ} {input rest : Input} {state state' : σ} :
    tell f input state = ⟨.ok rest, state'⟩ ↔ rest = input ∧ state' = f state := by
  simp [tell, eq_comm]

theorem read_eq_ok_iff {r : Read α} {next : α → Walk σ} {input rest : Input} {state state' : σ} :
    read r next input state = ⟨.ok rest, state'⟩ ↔
      ∃ a mid, r input = .ok (a, mid) ∧ next a mid state = ⟨.ok rest, state'⟩ := by
  unfold read
  cases r input with
  | error fault => simp
  | ok p =>
    obtain ⟨a, mid⟩ := p
    simp [and_assoc]

theorem andThen_eq_ok_iff {first second : Walk σ} {input rest : Input} {state state' : σ} :
    andThen first second input state = ⟨.ok rest, state'⟩ ↔
      ∃ mid between, first input state = ⟨.ok mid, between⟩ ∧
        second mid between = ⟨.ok rest, state'⟩ := by
  unfold andThen
  obtain ⟨result, between⟩ := first input state
  cases result with
  | error fault => simp
  | ok mid => simp [and_assoc]

/-! ### Languages -/

/-- The walk accepts exactly the forms of what fits, and tells the target their events. -/
def Reads (w : Walk σ) (t : Target σ) (Fits : α → Prop) (bytes : α → List UInt8)
    (events : α → List Event) : Prop :=
  ∀ input state rest state', w input state = ⟨.ok rest, state'⟩ ↔
    ∃ a, Fits a ∧ input.Passes (bytes a) rest ∧ state' = t.tellAll (events a) state

namespace Reads

variable {w first second : Walk σ} {Fits : α → Prop} {bytes : α → List UInt8}
  {events : α → List Event}

/-- The same language over another type. -/
theorem map {Fits' : β → Prop} {bytes' : β → List UInt8} {events' : β → List Event}
    (h : w.Reads t Fits bytes events) (f : α → β) (hfits : ∀ b, Fits' b ↔ ∃ a, Fits a ∧ f a = b)
    (hbytes : ∀ a, Fits a → bytes' (f a) = bytes a)
    (hevents : ∀ a, Fits a → events' (f a) = events a) : w.Reads t Fits' bytes' events' := by
  intro input state rest state'
  rw [h input state rest state']
  constructor
  · rintro ⟨a, ha, hpass, hstate⟩
    refine ⟨f a, (hfits _).2 ⟨a, ha, rfl⟩, ?_, ?_⟩
    · rwa [hbytes a ha]
    · rwa [hevents a ha]
  · rintro ⟨b, hb, hpass, hstate⟩
    obtain ⟨a, ha, rfl⟩ := (hfits b).1 hb
    rw [hbytes a ha] at hpass
    rw [hevents a ha] at hstate
    exact ⟨a, ha, hpass, hstate⟩

/-- The same language, described otherwise. -/
theorem congr {Fits' : α → Prop} {bytes' : α → List UInt8} {events' : α → List Event}
    (h : w.Reads t Fits bytes events) (hfits : ∀ a, Fits' a ↔ Fits a)
    (hbytes : ∀ a, Fits a → bytes' a = bytes a) (hevents : ∀ a, Fits a → events' a = events a) :
    w.Reads t Fits' bytes' events' :=
  h.map id (fun a => (hfits a).trans (by simp)) hbytes hevents

/-- A walk that only tells accepts nothing more than the empty form. -/
theorem tell (told : List Event) :
    (Walk.tell (t.tellAll told)).Reads t (fun _ : Unit => True) (fun _ => []) fun _ => told := by
  intro input state rest state'
  rw [tell_eq_ok_iff]
  simp [Input.passes_nil]

theorem andThen {Fits' : β → Prop} {bytes' : β → List UInt8} {events' : β → List Event}
    (h₁ : first.Reads t Fits bytes events) (h₂ : second.Reads t Fits' bytes' events') :
    (first.andThen second).Reads t (fun p : α × β => Fits p.1 ∧ Fits' p.2)
      (fun p => bytes p.1 ++ bytes' p.2) fun p => events p.1 ++ events' p.2 := by
  intro input state rest state'
  rw [andThen_eq_ok_iff]
  constructor
  · rintro ⟨mid, between, hfirst, hsecond⟩
    obtain ⟨a, ha, hpass, rfl⟩ := (h₁ _ _ _ _).1 hfirst
    obtain ⟨b, hb, hpass', rfl⟩ := (h₂ _ _ _ _).1 hsecond
    exact ⟨(a, b), ⟨ha, hb⟩, Input.passes_append.2 ⟨mid, hpass, hpass'⟩,
      (t.tellAll_append _ _ _).symm⟩
  · rintro ⟨⟨a, b⟩, ⟨ha, hb⟩, hpass, rfl⟩
    obtain ⟨mid, hpass, hpass'⟩ := Input.passes_append.1 hpass
    exact ⟨mid, _, (h₁ _ _ _ _).2 ⟨a, ha, hpass, rfl⟩,
      (h₂ _ _ _ _).2 ⟨b, hb, hpass', t.tellAll_append _ _ _⟩⟩

/-- Telling an event first. -/
theorem tell_andThen (e : Event) (h : w.Reads t Fits bytes events) :
    ((Walk.tell (t.tell e)).andThen w).Reads t Fits bytes fun a => e :: events a :=
  ((tell [e]).andThen h).map Prod.snd (by simp) (by simp) (by simp)

/-- Telling an event last. -/
theorem andThen_tell (e : Event) (h : w.Reads t Fits bytes events) :
    (w.andThen (Walk.tell (t.tell e))).Reads t Fits bytes fun a => events a ++ [e] :=
  (h.andThen (tell [e])).map Prod.fst (by simp) (by simp) (by simp)

/-- A repetition accepts the lists of what its body accepts.  The events of an element may depend on
where it stands; whether it fits, and its form, do not. -/
theorem each {body : Nat → Walk σ} {events : Nat → α → List Event}
    (h : ∀ index, (body index).Reads t Fits bytes (events index)) (start count : Nat) :
    (Walk.each body start count).Reads t
      (fun as : List α => as.length = count ∧ ∀ a ∈ as, Fits a)
      (fun as => as.flatMap bytes)
      fun as => (as.zipIdx start).flatMap fun p => events p.2 p.1 := by
  induction count generalizing start with
  | zero =>
    refine (tell (t := t) []).map (fun _ => []) (fun as => ?_) (by simp) (by simp)
    rw [List.length_eq_zero_iff]
    constructor
    · rintro ⟨rfl, -⟩
      exact ⟨(), trivial, rfl⟩
    · rintro ⟨-, -, rfl⟩
      exact ⟨rfl, by simp⟩
  | succ count ih =>
    refine ((h start).andThen (ih (start + 1))).map (fun p => p.1 :: p.2) (fun as => ?_)
      (by simp) (by simp)
    cases as with
    | nil => simp
    | cons a as =>
      simp only [List.length_cons, Nat.add_right_cancel_iff, List.forall_mem_cons, Prod.exists,
        List.cons.injEq]
      constructor
      · rintro ⟨hlength, ha, has⟩
        exact ⟨a, as, ⟨ha, hlength, has⟩, rfl, rfl⟩
      · rintro ⟨_, _, ⟨ha, hlength, has⟩, rfl, rfl⟩
        exact ⟨hlength, ha, has⟩

/-- A count, and then what is made of so many elements of at least the given size. -/
theorem count {next : Nat → Walk σ} {order : ByteOrder} {size : Nat} (length : α → Nat)
    (hsize : 0 < size)
    (hnext : ∀ n, (next n).Reads t (fun a => length a = n ∧ Fits a) bytes events)
    (hroom : ∀ a, Fits a → length a * size ≤ (bytes a).length) :
    (Walk.read (Read.count order size) next).Reads t
      (fun a => length a < UInt32.size ∧ Fits a)
      (fun a => order.encode 4 (length a) ++ bytes a) events := by
  intro input state rest state'
  simp only [read_eq_ok_iff, Read.count_eq_ok_iff]
  constructor
  · rintro ⟨n, mid, ⟨hn, -, hcount⟩, hrun⟩
    obtain ⟨a, ⟨rfl, ha⟩, hpass, hstate⟩ := (hnext n _ _ _ _).1 hrun
    exact ⟨a, ⟨hn, ha⟩, Input.passes_append.2 ⟨mid, hcount, hpass⟩, hstate⟩
  · rintro ⟨a, ⟨hn, ha⟩, hpass, hstate⟩
    obtain ⟨mid, hcount, hpass⟩ := Input.passes_append.1 hpass
    -- the check before the elements are read: they are there, so there is room for them
    have room : length a ≤ mid.remaining / size := by
      rw [Nat.le_div_iff_mul_le hsize]
      exact Nat.le_trans (hroom a ha) hpass.length_le
    exact ⟨length a, mid, ⟨hn, room, hcount⟩, (hnext _ _ _ _ _).2 ⟨a, ⟨rfl, ha⟩, hpass, hstate⟩⟩

end Reads

end Walk

end GeometryIndex

import GeometryIndex.Proofs.Reading.Parts

/-!
# Reading — what a walk does, written down

A walk whose target separates no items does the same whoever it tells: it reads, tells, and goes on
with what it has read.  `Script` writes that down without a target, so that it can be asked what was
left to read when an event was told (`Script.calls`), which a target does not get to see.

* `Script.run_eq`: to run a script is to tell the events of its calls, and to end as it ends;
* `Geometry.walk_eq_run`: every such walk is the run of a script.
-/

namespace GeometryIndex

universe u

/-- An event, the header of the geometry it was told of, and what was left to read at the time. -/
structure Call where
  header : Header
  input : Input
  event : Event

/-- What a walk does, whoever it tells. -/
inductive Script : Type 1
  | done
  | fail (fault : DecodeFault)
  | tell (header : Header) (event : Event) (next : Script)
  | read {α : Type} (reader : Read α) (next : α → Script)

namespace Script

/-- One script, and another one where the first is done. -/
def andThen : Script → Script → Script
  | .done, second => second
  | .fail fault, _ => .fail fault
  | .tell h e next, second => .tell h e (next.andThen second)
  | .read r next, second => .read r fun a => (next a).andThen second

/-- The scripts `body start`, `body (start + 1)`, …, `count` of them. -/
def each (body : Nat → Script) (start : Nat) : (count : Nat) → Script
  | 0 => .done
  | count + 1 => (body start).andThen (each body (start + 1) count)

/-- What is told, and when. -/
def calls : Script → Input → List Call
  | .done, _ => []
  | .fail _, _ => []
  | .tell h e next, input => ⟨h, input, e⟩ :: next.calls input
  | .read r next, input =>
    match r input with
    | .error _ => []
    | .ok (a, rest) => (next a).calls rest

/-- What was left to read whenever the script read, told or ended. -/
def stops : Script → Input → List Input
  | .done, input => [input]
  | .fail _, input => [input]
  | .tell _ _ next, input => next.stops input
  | .read r next, input =>
    input :: match r input with
      | .error _ => []
      | .ok (a, rest) => (next a).stops rest

/-- What is left of the input in the end, or the fault met. -/
def result : Script → Input → Except DecodeFault Input
  | .done, input => .ok input
  | .fail fault, _ => .error fault
  | .tell _ _ next, input => next.result input
  | .read r next, input =>
    match r input with
    | .error fault => .error fault
    | .ok (a, rest) => (next a).result rest

/-- The walk that tells a target. -/
def run {σ : Type u} (t : Target σ) : Script → Walk σ
  | .done => .tell id
  | .fail fault => .fail fault
  | .tell _ e next => .andThen (.tell (t.tell e)) (next.run t)
  | .read r next => .read r fun a => (next a).run t

/-! ### Runs -/

variable {σ : Type u} {t : Target σ}

/-- **What a run does**: the events of the calls are told in order, whatever the target makes of
them, and the result is that of the script. -/
theorem run_eq (s : Script) (t : Target σ) (input : Input) (x : σ) :
    s.run t input x = ⟨s.result input, t.tellAll ((s.calls input).map Call.event) x⟩ := by
  induction s generalizing input x with
  | done => rfl
  | fail fault => rfl
  | tell h e next ih => exact ih input (t.tell e x)
  | read r next ih =>
    rw [run, calls, result]
    cases hread : r input with
    | error fault => exact Walk.read_of_error hread _ x
    | ok p =>
      obtain ⟨a, rest⟩ := p
      rw [Walk.read_of_ok hread]
      exact ih a rest x

theorem run_andThen (first second : Script) :
    (first.andThen second).run t = (first.run t).andThen (second.run t) := by
  induction first with
  | done => rfl
  | fail fault => rfl
  | tell h e next ih =>
    rw [andThen, run, run, ih]
    rfl
  | read r next ih =>
    funext input x
    rw [andThen, run, run]
    cases hread : r input with
    | error fault => simp only [Walk.andThen, Walk.read, hread]
    | ok p => simp only [Walk.andThen, Walk.read, hread, ih]

theorem run_each {body : Nat → Script} {walk : Nat → Walk σ}
    (h : ∀ index, (body index).run t = walk index) (start count : Nat) :
    (each body start count).run t = .each walk start count := by
  induction count generalizing start with
  | zero => rfl
  | succ count ih => rw [each, run_andThen, h, ih, Walk.each]

/-! ### One script after another -/

/-- The second script is called for only where the first is done. -/
theorem calls_andThen (first second : Script) (input : Input) :
    (first.andThen second).calls input =
      first.calls input ++ (first.result input).toOption.elim [] second.calls := by
  induction first generalizing input with
  | done => rfl
  | fail fault => rfl
  | tell h e next ih => exact congrArg (List.cons _) (ih input)
  | read r next ih =>
    rw [andThen, calls, calls, result]
    cases r input with
    | error fault => rfl
    | ok p => exact ih p.1 p.2

/-- The second script stops only where the first is done. -/
theorem mem_stops_andThen {first second : Script} {input stop : Input}
    (h : stop ∈ (first.andThen second).stops input) :
    stop ∈ first.stops input ∨
      ∃ rest, first.result input = .ok rest ∧ stop ∈ second.stops rest := by
  induction first generalizing input with
  | done => exact .inr ⟨input, rfl, h⟩
  | fail fault => exact .inl h
  | tell hd e next ih => exact ih h
  | read r next ih =>
    rw [andThen, stops] at h
    rw [stops, result]
    cases hread : r input with
    | error fault =>
      rw [hread] at h
      exact .inl h
    | ok p =>
      rw [hread] at h
      rcases List.mem_cons.mp h with rfl | h
      · exact .inl List.mem_cons_self
      · exact (ih p.1 h).imp_left (List.mem_cons_of_mem _)

theorem mem_stops_self (s : Script) (input : Input) : input ∈ s.stops input := by
  induction s generalizing input with
  | done | fail => exact List.mem_singleton_self input
  | tell h e next ih => exact ih input
  | read r next => rw [stops]; exact List.mem_cons_self

/-- What was left when an event was told. -/
theorem input_mem_stops {s : Script} {input : Input} {call : Call} (h : call ∈ s.calls input) :
    call.input ∈ s.stops input := by
  induction s generalizing input with
  | done | fail => cases h
  | tell hd e next ih =>
    rcases List.mem_cons.mp h with rfl | h
    · exact mem_stops_self next input
    · exact ih h
  | read r next ih =>
    rw [calls] at h
    rw [stops]
    cases hread : r input with
    | error fault =>
      rw [hread] at h
      cases h
    | ok p =>
      rw [hread] at h
      exact List.mem_cons_of_mem _ (ih p.1 h)

theorem result_andThen (first second : Script) (input : Input) :
    (first.andThen second).result input = first.result input >>= second.result := by
  induction first generalizing input with
  | done => rfl
  | fail fault => rfl
  | tell h e next ih => exact ih input
  | read r next ih =>
    rw [andThen, result, result]
    cases r input with
    | error fault => rfl
    | ok p => exact ih p.1 p.2

end Script

namespace Geometry

open Script

/-! ### The script of a geometry -/

def scriptCoordinates (h : Header) (total : Nat) : Script :=
  .each (fun index => .read h.readCoordinate fun c => .tell h (.coordinate c index total) .done) 0
    total

def scriptPoint (h : Header) : Script :=
  .tell h (.point h.srid) <|
    .read h.readCoordinate fun c =>
      if c.isEmpty then .done else .tell h (.coordinate c 0 1) .done

def scriptLineString (h : Header) : Script :=
  .read (Read.count h.order h.coordinateSize) fun n =>
    .tell h (.lineString h.srid n) (scriptCoordinates h n)

def scriptInnerRing (h : Header) : Script :=
  .read (Read.count h.order h.coordinateSize) fun n =>
    .tell h (.innerRing n) (scriptCoordinates h n)

def scriptPolygon (h : Header) : Script :=
  .read (Read.count h.order leastRing) fun
    | 0 => .tell h (.polygon h.srid 0 0) .done
    | inner + 1 =>
      .read (Read.count h.order h.coordinateSize) fun n =>
        .tell h (.polygon h.srid inner n) <|
          (scriptCoordinates h n).andThen <|
            (Script.each (fun _ => scriptInnerRing h) 0 inner).andThen (.tell h .endPolygon .done)

/-- One item of a collection with the header `h`. -/
def scriptItem (h : Header) (item : Script) (total index : Nat) : Script :=
  .tell h (.item index total) (item.andThen (.tell h (.endItem index total none) .done))

def scriptCollection (h : Header) (c : Collection) (item : Script) : Script :=
  .read (Read.count h.order leastItem) fun n =>
    .tell h (.collection c h.srid n) <|
      (Script.each (scriptItem h item n) 0 n).andThen (.tell h (.endCollection c) .done)

/-- A geometry inside one with the SRID `outer`, and of the kind `expected`, if there are such; the
first argument is the number of levels that are still allowed. -/
def script : Nat → Option Int32 → Option Kind → Script
  | 0, _, _ => .fail .nesting
  | level + 1, outer, expected =>
    .read (Header.readItem outer expected) fun h =>
      match h.kind with
      | .point => scriptPoint h
      | .lineString => scriptLineString h
      | .polygon => scriptPolygon h
      | .collection c => scriptCollection h c (script level (some h.srid) c.itemKind?)

/-- What is told of an input, and when. -/
def calls (bytes : List UInt8) : List Call := (script Tree.room none none).calls (.ofBytes bytes)

/-- What was left of an input whenever it was read on, something was told, or the walk ended. -/
def stops (bytes : List UInt8) : List Input := (script Tree.room none none).stops (.ofBytes bytes)

variable {σ : Type u} {t : Target σ}

theorem walkCoordinates_eq_run (t : Target σ) (h : Header) (total : Nat) :
    walkCoordinates t h total = (scriptCoordinates h total).run t := by
  rw [scriptCoordinates, run_each fun _ => rfl]
  rfl

theorem walkPoint_eq_run (t : Target σ) (h : Header) : walkPoint t h = (scriptPoint h).run t := by
  unfold walkPoint scriptPoint
  rw [run, run]
  congr 2
  funext c
  split <;> rfl

theorem walkLineString_eq_run (t : Target σ) (h : Header) :
    walkLineString t h = (scriptLineString h).run t := by
  unfold walkLineString
  simp only [walkCoordinates_eq_run]
  rfl

theorem walkInnerRing_eq_run (t : Target σ) (h : Header) :
    walkInnerRing t h = (scriptInnerRing h).run t := by
  unfold walkInnerRing
  simp only [walkCoordinates_eq_run]
  rfl

theorem walkPolygon_eq_run (t : Target σ) (h : Header) :
    walkPolygon t h = (scriptPolygon h).run t := by
  unfold walkPolygon scriptPolygon
  rw [run]
  congr 1
  funext rings
  cases rings with
  | zero => rfl
  | succ inner =>
    simp only [run, run_andThen, run_each fun _ => (walkInnerRing_eq_run t h).symm,
      walkCoordinates_eq_run]
    rfl

theorem walkItem_eq_run (flat : t.IsFlat) (h : Header) (item : Script) (total index : Nat) :
    walkItem t (item.run t) total index = (scriptItem h item total index).run t := by
  rw [walkItem_eq flat, scriptItem, run, run_andThen]
  rfl

theorem walkCollection_eq_run (flat : t.IsFlat) (h : Header) (c : Collection) (item : Script) :
    walkCollection t h c (item.run t) = (scriptCollection h c item).run t := by
  unfold walkCollection scriptCollection
  simp only [run, run_andThen, run_each fun index => (walkItem_eq_run flat h item _ index).symm]
  rfl

/-- **A walk is the run of a script**, if its target separates no items. -/
theorem walk_eq_run (flat : t.IsFlat) (level : Nat) (outer : Option Int32)
    (expected : Option Kind) :
    walk t level outer expected = (script level outer expected).run t := by
  induction level generalizing outer expected with
  | zero => rfl
  | succ level ih =>
    rw [walk, script, run]
    congr 1
    funext h
    cases h.kind with
    | point => exact walkPoint_eq_run t h
    | lineString => exact walkLineString_eq_run t h
    | polygon => exact walkPolygon_eq_run t h
    | collection c =>
      show walkCollection t h c (walk t level (some h.srid) c.itemKind?) = _
      rw [ih]
      exact walkCollection_eq_run flat h c _

end Geometry

end GeometryIndex

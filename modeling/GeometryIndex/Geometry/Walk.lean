import GeometryIndex.Geometry.Target
import GeometryIndex.Geometry.Tree.Basic

/-!
# Walking over a geometry

A walk reads a geometry from the front of the input and tells a target what it meets.  Its outcome
has the state of the target beside the result, since what was told before a failure stays told.

A walk is put together from a few pieces: reading (`Walk.read`), telling (`Walk.tell`), one after
the other (`Walk.andThen`) and repetition (`Walk.each`).  Nesting is bounded by `Tree.room`, on
which `Geometry.walk` recurses.
-/

namespace GeometryIndex

universe u

/-- What is left of the input or the fault met, and the state of the target at that point. -/
structure Outcome (σ : Type u) where
  result : Except DecodeFault Input
  state : σ

/-- A step through the input that changes the state of a target. -/
abbrev Walk (σ : Type u) : Type u := Input → σ → Outcome σ

namespace Walk

variable {σ : Type u}

/-- Reads nothing and fails. -/
def fail (fault : DecodeFault) : Walk σ := fun _ state => ⟨.error fault, state⟩

/-- Reads nothing and changes the state. -/
def tell (f : σ → σ) : Walk σ := fun input state => ⟨.ok input, f state⟩

/-- Reads a value and goes on with it. -/
def read {α : Type} (r : Read α) (next : α → Walk σ) : Walk σ := fun input state =>
  match r input with
  | .error fault => ⟨.error fault, state⟩
  | .ok (a, rest) => next a rest state

/-- One walk, and another one on what the first has left. -/
def andThen (first second : Walk σ) : Walk σ := fun input state =>
  let outcome := first input state
  match outcome.result with
  | .error fault => ⟨.error fault, outcome.state⟩
  | .ok rest => second rest outcome.state

/-- The walks `body start`, `body (start + 1)`, …, `count` of them. -/
def each (body : Nat → Walk σ) (start : Nat) : (count : Nat) → Walk σ
  | 0 => tell id
  | count + 1 => andThen (body start) (each body (start + 1) count)

theorem read_of_ok {α : Type} {r : Read α} {input rest : Input} {a : α}
    (h : r input = .ok (a, rest)) (next : α → Walk σ) (state : σ) :
    read r next input state = next a rest state := by
  simp [read, h]

theorem read_of_error {α : Type} {r : Read α} {input : Input} {fault : DecodeFault}
    (h : r input = .error fault) (next : α → Walk σ) (state : σ) :
    read r next input state = ⟨.error fault, state⟩ := by
  simp [read, h]

theorem andThen_of_ok {first : Walk σ} {input rest : Input} {state : σ}
    (h : (first input state).result = .ok rest) (second : Walk σ) :
    andThen first second input state = second rest (first input state).state := by
  simp [andThen, h]

theorem andThen_of_error {first : Walk σ} {input : Input} {state : σ} {fault : DecodeFault}
    (h : (first input state).result = .error fault) (second : Walk σ) :
    andThen first second input state = ⟨.error fault, (first input state).state⟩ := by
  simp [andThen, h]

/-- Telling first is starting from another state. -/
@[simp] theorem tell_andThen (f : σ → σ) (second : Walk σ) (input : Input) (state : σ) :
    andThen (tell f) second input state = second input (f state) := rfl

end Walk

namespace Geometry

variable {σ : Type u}

/-- The least size of an item: a byte order and a type word. -/
def leastItem : Nat := 5

/-- The least size of a ring: its count. -/
def leastRing : Nat := 4

def walkCoordinates (t : Target σ) (h : Header) (total : Nat) : Walk σ :=
  .each (fun index => .read h.readCoordinate fun c => .tell (t.addCoordinate c index total)) 0 total

def walkPoint (t : Target σ) (h : Header) : Walk σ :=
  .andThen (.tell (t.startPoint h.srid)) <|
    .read h.readCoordinate fun c =>
      if c.isEmpty then .tell id else .tell (t.addCoordinate c 0 1)

def walkLineString (t : Target σ) (h : Header) : Walk σ :=
  .read (Read.count h.order h.coordinateSize) fun n =>
    .andThen (.tell (t.startLineString h.srid n)) (walkCoordinates t h n)

def walkInnerRing (t : Target σ) (h : Header) : Walk σ :=
  .read (Read.count h.order h.coordinateSize) fun n =>
    .andThen (.tell (t.startInnerRing n)) (walkCoordinates t h n)

def walkPolygon (t : Target σ) (h : Header) : Walk σ :=
  .read (Read.count h.order leastRing) fun
    | 0 => .tell (t.startPolygon h.srid 0 0)
    | inner + 1 =>
      .read (Read.count h.order h.coordinateSize) fun n =>
        .andThen (.tell (t.startPolygon h.srid inner n)) <|
          .andThen (walkCoordinates t h n) <|
            .andThen (.each (fun _ => walkInnerRing t h) 0 inner) (.tell t.endPolygon)

/-- One item.  If it has a state of its own, that state is lost when the item fails. -/
def walkItem (t : Target σ) (item : Walk σ) (total index : Nat) : Walk σ := fun input state =>
  match t.startItem index total state with
  | (state, none) => (Walk.andThen item (.tell (t.endItem none index total))) input state
  | (state, some own) =>
    let outcome := item input own
    ⟨outcome.result,
      match outcome.result with
      | .error _ => state
      | .ok _ => t.endItem (some outcome.state) index total state⟩

/-- A collection whose items are walked over by `item`. -/
def walkCollection (t : Target σ) (h : Header) (c : Collection) (item : Walk σ) : Walk σ :=
  .read (Read.count h.order leastItem) fun n =>
    .andThen (.tell (t.startCollection c h.srid n)) <|
      .andThen (.each (walkItem t item n) 0 n) (.tell (t.endCollection c))

/-- A geometry inside one with the SRID `parent`, and of the kind `expected`, if there are such;
the first argument is the number of levels that are still allowed. -/
def walk (t : Target σ) : Nat → Option Int32 → Option Kind → Walk σ
  | 0, _, _ => .fail .nesting
  | level + 1, parent, expected =>
    .read (Header.readItem parent expected) fun h =>
      match h.kind with
      | .point => walkPoint t h
      | .lineString => walkLineString t h
      | .polygon => walkPolygon t h
      | .collection c => walkCollection t h c (walk t level (some h.srid) c.itemKind?)

/-- Tells a target what bytes hold if they are one geometry, and up to the first fault if not. -/
def parse (t : Target σ) (bytes : List UInt8) (state : σ) : Except DecodeFault Unit × σ :=
  let outcome := walk t Tree.room none none (.ofBytes bytes) state
  let result := do
    let rest ← outcome.result
    if rest.remaining = 0 then pure () else throw (.trailing rest.remaining)
  (result, outcome.state)

/-- The SRID of the outermost geometry; what follows its header is not read. -/
def srid (bytes : List UInt8) : Except DecodeFault Int32 := do
  let (header, _) ← Header.read none (.ofBytes bytes)
  return header.srid

end Geometry

end GeometryIndex

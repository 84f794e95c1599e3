import GeometryIndex.Geometry.Metadata
import GeometryIndex.Proofs.Reading.Grammar

/-!
# Reading — the shells of a geometry

The coordinates of all points, line strings and outer rings are the shells of a geometry
(`Tree.shells`).  The envelope of a geometry is reached from them, one after the other and starting
from nothing (`Envelope.around`); inner rings do not take part.

* `Shell.envelope_tellAll`: what the events of a tree make of an envelope;
* `Geometry.envelope_eq_ok_iff`, `Geometry.metadata_eq_ok_iff`: hence the envelope of bytes is that
  of the shells of the tree they are the form of, by either way of reading them.
-/

namespace GeometryIndex

universe u v

/-! ### Shells -/

namespace Tree

mutual

/-- The coordinates of the points, line strings and outer rings, in document order.  A point
without a position has none. -/
def shells : Tree → List Coordinate
  | .point form position => if (form.told position).isEmpty then [] else [form.told position]
  | .lineString form path => path.map form.told
  | .polygon form rings => (rings.headD []).map form.told
  | .collection _ _ items => shellsOfItems items

/-- The coordinates of the shells of the items of a collection. -/
def shellsOfItems : List Tree → List Coordinate
  | [] => []
  | item :: items => item.shells ++ shellsOfItems items

end

end Tree

namespace Envelope

/-- An envelope, if there is one already, widened to reach a coordinate. -/
def reach (envelope : Option Envelope) (c : Coordinate) : Option Envelope :=
  some (envelope.elim (.point c.x c.y) fun e => e.expand c.x c.y)

/-- The envelope of coordinates, reached one after the other. -/
def around (coordinates : List Coordinate) : Option Envelope := coordinates.foldl reach none

end Envelope

/-! ### Telling coordinates -/

namespace Target

variable {σ : Type u} {τ : Type v} {α : Type}

/-- Events that are told alike wherever they stand. -/
theorem tellAll_mapIdx {t : Target σ} {event : Nat → α → Event} (change : σ → α → σ)
    (h : ∀ index a state, t.tell (event index a) state = change state a) (as : List α)
    (state : σ) : t.tellAll (as.mapIdx event) state = as.foldl change state := by
  induction as generalizing event state with
  | nil => rfl
  | cons a as ih =>
    rw [List.mapIdx_cons, tellAll_cons, h, List.foldl_cons]
    exact ih (fun index => h (index + 1)) _

/-- Two targets told at once are told separately. -/
theorem tellAll_both (s : Target σ) (t : Target τ) (events : List Event) (state : σ × τ) :
    (s.both t).tellAll events state = (s.tellAll events state.1, t.tellAll events state.2) := by
  induction events generalizing state with
  | nil => rfl
  | cons e events ih =>
    rw [tellAll_cons, ih]
    cases e <;> rfl

end Target

namespace Shell

theorem isFlat_target : target.IsFlat := fun _ _ _ => rfl

theorem tellAll_pathEvents (form : Form) (path : List Coordinate) (e : Option Envelope) :
    target.tellAll (form.pathEvents path) ⟨true, e⟩ =
      ⟨true, (path.map form.told).foldl Envelope.reach e⟩ := by
  rw [Form.pathEvents, Target.tellAll_mapIdx (fun s c => s.add (form.told c)) fun _ _ _ => rfl]
  induction path generalizing e with
  | nil => rfl
  | cons c path ih => exact ih _

theorem tellAll_pathEvents_uncounted (form : Form) (path : List Coordinate)
    (e : Option Envelope) : target.tellAll (form.pathEvents path) ⟨false, e⟩ = ⟨false, e⟩ := by
  rw [Form.pathEvents, Target.tellAll_mapIdx (fun s c => s.add (form.told c)) fun _ _ _ => rfl]
  induction path with
  | nil => rfl
  | cons c path ih => exact ih

/-- Inner rings do not count. -/
theorem envelope_innerEvents (form : Form) (rings : List (List Coordinate)) (s : Shell) :
    (target.tellAll (form.innerEvents rings) s).envelope = s.envelope := by
  induction rings generalizing s with
  | nil => rfl
  | cons ring rings ih =>
    rw [Form.innerEvents, List.flatMap_cons, Target.tellAll_append, ← Form.innerEvents, ih,
      Target.tellAll_cons]
    show (target.tellAll (form.pathEvents ring) ⟨false, s.envelope⟩).envelope = _
    rw [tellAll_pathEvents_uncounted]

mutual

/-- **The events of a tree widen an envelope to reach its shells.** -/
theorem envelope_tellAll (outer : Int32) : ∀ (t : Tree) (s : Shell),
    (target.tellAll (t.events outer) s).envelope = t.shells.foldl Envelope.reach s.envelope
  | .point form position, s => by
      rw [Tree.events, Tree.shells]
      split <;> rfl
  | .lineString form path, s => by
      rw [Tree.events, Tree.shells]
      exact congrArg envelope (tellAll_pathEvents form path s.envelope)
  | .polygon form [], s => by
      rw [Tree.events, Tree.shells]
      rfl
  | .polygon form (ring :: rings), s => by
      rw [Tree.events, Tree.shells, Target.tellAll_cons, Target.tellAll_append,
        Target.tellAll_append]
      show (target.tellAll (form.innerEvents rings)
        (target.tellAll (form.pathEvents ring) ⟨true, s.envelope⟩)).envelope = _
      rw [envelope_innerEvents, tellAll_pathEvents]
      rfl
  | .collection form c items, s => by
      rw [Tree.events, Tree.shells, Target.tellAll_cons, Target.tellAll_append]
      exact envelope_tellAllItems _ _ _ items s

theorem envelope_tellAllItems (outer : Int32) (total index : Nat) :
    ∀ (items : List Tree) (s : Shell),
      (target.tellAll (Tree.eventsOfItems outer total index items) s).envelope =
        (Tree.shellsOfItems items).foldl Envelope.reach s.envelope
  | [], s => rfl
  | item :: items, s => by
      rw [Tree.eventsOfItems, Tree.shellsOfItems, List.foldl_append, Target.tellAll_cons,
        Target.tellAll_append, Target.tellAll_append, envelope_tellAllItems _ _ _ items]
      show List.foldl _ (target.tellAll (item.events outer) s).envelope _ = _
      rw [envelope_tellAll outer item]

end

end Shell

/-! ### The envelope of bytes -/

namespace Geometry

theorem envelope_eq_map (bytes : List UInt8) :
    envelope bytes = (parse Shell.target bytes .start).1.map fun _ =>
      (parse Shell.target bytes .start).2.envelope := by
  unfold envelope
  split <;> next h => rw [h]; rfl

theorem metadata_eq_map (bytes : List UInt8) :
    metadata bytes = (parse (Extent.target.both Shell.target) bytes (.start, .start)).1.map fun _ =>
      ((parse (Extent.target.both Shell.target) bytes (.start, .start)).2.2.envelope,
        (parse (Extent.target.both Shell.target) bytes (.start, .start)).2.1.dimensions) := by
  unfold metadata
  split <;> next h => rw [h]; rfl

/-- **The envelope of bytes is that of the shells of the tree they are the form of.** -/
theorem envelope_eq_ok_iff {bytes : List UInt8} {e : Option Envelope} :
    envelope bytes = .ok e ↔
      ∃ tree : Tree, tree.Valid ∧ tree.bytes = bytes ∧ e = Envelope.around tree.shells := by
  rw [envelope_eq_map, parse_map_eq_ok_iff (g := Shell.envelope) Shell.isFlat_target]
  simp only [Shell.envelope_tellAll]
  rfl

/-- Reading the dimensions in the same walk makes no difference to the envelope. -/
theorem metadata_eq_ok_iff {bytes : List UInt8} {e : Option Envelope} {d : Dimensions} :
    metadata bytes = .ok (e, d) ↔
      ∃ tree : Tree, tree.Valid ∧ tree.bytes = bytes ∧ e = Envelope.around tree.shells ∧
        d = (Extent.target.tellAll (tree.events 0) .start).dimensions := by
  have flat : (Extent.target.both Shell.target).IsFlat := fun _ _ _ => rfl
  rw [metadata_eq_map, parse_map_eq_ok_iff (g := fun state : Extent × Shell =>
    (state.2.envelope, state.1.dimensions)) flat]
  simp only [Target.tellAll_both, Shell.envelope_tellAll, Prod.mk.injEq]
  rfl

end Geometry

end GeometryIndex

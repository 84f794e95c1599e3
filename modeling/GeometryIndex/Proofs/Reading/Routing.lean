import GeometryIndex.Proofs.Reading.Agreement
import GeometryIndex.Proofs.Reading.Grammar

/-!
# Reading — routing items to recorders of their own

A policy spreads what a geometry tells over recorders: one for the whole and, at any level, one for
each item that it selects.  Putting what the recorder of an item kept before the end of that item
(`Event.spliced`) gives back what one recorder for everything keeps.

`Recorder.Routed` says where an event may have been kept: what is told between the start and the end
of an item is kept in a recorder that is new at the start if the policy selects the item, and is
kept along with the events around it if not.

* `Recorder.flat_relates`: the recorder for everything and the ones of a policy keep in step;
* `Geometry.parse_independent_of_target`: the result is that of any other target, and routing loses
  nothing.
-/

namespace GeometryIndex

universe u v

/-! ### Putting events back in place -/

namespace Event

mutual

/-- What an event tells, with what a recorder of its own kept put in place. -/
def spliced : Event → List Event
  | .endItem index total (some own) => splicedAll own ++ [.endItem index total none]
  | e => [e]

/-- What events tell, one after the other. -/
def splicedAll : List Event → List Event
  | [] => []
  | e :: events => e.spliced ++ splicedAll events

end

theorem splicedAll_append (events events' : List Event) :
    splicedAll (events ++ events') = splicedAll events ++ splicedAll events' := by
  induction events with
  | nil => rw [splicedAll, List.nil_append, List.nil_append]
  | cons e events ih =>
    rw [List.cons_append, splicedAll, splicedAll, ih, List.append_assoc]

theorem spliced_of_plain {e : Event} (h : e.Plain) : e.spliced = [e] := by
  cases e with
  | endItem index total own => cases h; rw [spliced]; nofun
  | _ => rw [spliced]; nofun

/-- An event that neither starts nor ends an item. -/
def IsInner : Event → Prop
  | .item .. | .endItem .. => False
  | _ => True

theorem IsInner.plain {e : Event} (h : e.IsInner) : e.Plain := by
  cases e with
  | endItem index total own => exact h.elim
  | _ => trivial

end Event

namespace Recorder

variable {ν : Type} {policy : Policy ν}

/-- What a recorder may come to by being told whole items and other events.  The policy is asked
when the start of an item has been kept. -/
inductive Routed (policy : Policy ν) : Recorder ν → Recorder ν → Prop
  | refl (r : Recorder ν) : Routed policy r r
  | keep {r r' : Recorder ν} {e : Event} (before : Routed policy r r') (inner : e.IsInner) :
      Routed policy r (r'.keep e)
  /-- The events of an item that is not selected are kept on the spot. -/
  | along {r r' last : Recorder ν} {index total : Nat} (before : Routed policy r r')
      (along : policy (r'.keep (.item index total)) index total = none)
      (item : Routed policy (r'.keep (.item index total)) last) :
      Routed policy r (last.keep (.endItem index total none))
  /-- The events of an item that is selected are kept in a new recorder. -/
  | apart {r r' own : Recorder ν} {index total : Nat} {note : ν} (before : Routed policy r r')
      (apart : policy (r'.keep (.item index total)) index total = some note)
      (item : Routed policy (.start note) own) :
      Routed policy r
        ((r'.keep (.item index total)).keep (.endItem index total (some own.events)))

/-- Both have been told the same since the one for everything had kept `before` and the other one
was `first`. -/
def InStep (policy : Policy ν) (since : List Event × Recorder ν) (all : Recorder Unit)
    (r : Recorder ν) : Prop :=
  Routed policy since.2 r ∧ all.events = since.1 ++ Event.splicedAll r.events

theorem InStep.keep {since : List Event × Recorder ν} {all : Recorder Unit} {r : Recorder ν}
    {e : Event} (h : InStep policy since all r) (inner : e.IsInner) :
    InStep policy since (all.keep e) (r.keep e) := by
  refine ⟨h.1.keep inner, ?_⟩
  show all.events ++ [e] = since.1 ++ Event.splicedAll (r.events ++ [e])
  rw [h.2, Event.splicedAll_append, Event.splicedAll, Event.spliced_of_plain inner.plain,
    Event.splicedAll, List.append_nil, List.append_assoc]

variable {r last own : Recorder ν} {index total : Nat} {note : ν}

theorem enter_of_along (h : policy (r.keep (.item index total)) index total = none) :
    (target policy).enter index total r = r.keep (.item index total) := by
  show (((policy (r.keep (.item index total)) index total).map start).getD _) = _
  rw [h]
  rfl

theorem leave_of_along (h : policy (r.keep (.item index total)) index total = none) :
    (target policy).leave index total r last = last.keep (.endItem index total none) := by
  unfold Target.leave
  simp only [target, h, Option.map_none]

theorem enter_of_apart (h : policy (r.keep (.item index total)) index total = some note) :
    (target policy).enter index total r = .start note := by
  show (((policy (r.keep (.item index total)) index total).map start).getD _) = _
  rw [h]
  rfl

theorem leave_of_apart (h : policy (r.keep (.item index total)) index total = some note) :
    (target policy).leave index total r own =
      (r.keep (.item index total)).keep (.endItem index total (some own.events)) := by
  unfold Target.leave
  simp only [target, h, Option.map_some]

/-- **The recorder for everything and the recorders of a policy keep in step.**  Inside an item that
is selected, its recorder is compared with what has been kept since the item started. -/
theorem flat_relates (policy : Policy ν) : flat.Relates (InStep policy) (target policy) where
  startPoint _ _ _ _ h := h.keep trivial
  startLineString _ _ _ _ _ h := h.keep trivial
  startPolygon _ _ _ _ _ _ h := h.keep trivial
  startInnerRing _ _ _ _ h := h.keep trivial
  endPolygon _ _ _ h := h.keep trivial
  startCollection _ _ _ _ _ _ h := h.keep trivial
  endCollection _ _ _ _ h := h.keep trivial
  addCoordinate _ _ _ _ _ _ h := h.keep trivial
  item since index total all r h := by
    obtain ⟨hrouted, hevents⟩ := h
    have hitem : all.events ++ [.item index total] =
        since.1 ++ Event.splicedAll (r.events ++ [.item index total]) := by
      rw [hevents, Event.splicedAll_append, List.append_assoc]
      rfl
    cases hpolicy : policy (r.keep (.item index total)) index total with
    | none =>
      refine ⟨(since.1, r.keep (.item index total)), ?_, ?_⟩
      · rw [enter_of_along hpolicy]
        exact ⟨.refl _, hitem⟩
      · rintro all' last ⟨hlast, hevents'⟩
        rw [leave_of_along hpolicy]
        refine ⟨hrouted.along hpolicy hlast, ?_⟩
        show all'.events ++ [_] = since.1 ++ Event.splicedAll (last.events ++ [_])
        rw [hevents', Event.splicedAll_append, List.append_assoc]
        rfl
    | some note =>
      refine ⟨(all.events ++ [.item index total], .start note), ?_, ?_⟩
      · rw [enter_of_apart hpolicy]
        exact ⟨.refl _, (List.append_nil _).symm⟩
      · rintro all' own ⟨hown, hevents'⟩
        rw [leave_of_apart hpolicy]
        refine ⟨hrouted.apart hpolicy hown, ?_⟩
        show all'.events ++ [.endItem index total none] = since.1 ++
          Event.splicedAll ((r.events ++ [.item index total]) ++
            [.endItem index total (some own.events)])
        rw [hevents', hitem, Event.splicedAll_append (r.events ++ _), Event.splicedAll,
          Event.splicedAll, Event.spliced, List.append_nil]
        simp only [List.append_assoc]

end Recorder

namespace Geometry

variable {σ : Type u} {τ : Type v} {ν : Type}

/-- **What is read does not depend on who is told it, and routing loses nothing.**  Two targets get
the same result from the same bytes, the fault included.  If the bytes are accepted, the recorders
of a policy have been told whole items as the policy says, and what they keep, put in place, is what
one recorder keeps that is told everything. -/
theorem parse_independent_of_target (s : Target σ) (t : Target τ) (policy : Recorder.Policy ν)
    (bytes : List UInt8) (x : σ) (y : τ) (note : ν) :
    (parse s bytes x).1 = (parse t bytes y).1 ∧
      ((parse (Recorder.target policy) bytes (.start note)).1 = .ok () →
        Recorder.Routed policy (.start note)
            (parse (Recorder.target policy) bytes (.start note)).2 ∧
          Event.splicedAll (parse (Recorder.target policy) bytes (.start note)).2.events =
            (parse Recorder.flat bytes (.start ())).2.events) := by
  refine ⟨(parse_agree (s.relates_unrelated t) (a := ()) trivial bytes).1, fun hok => ?_⟩
  have start : Recorder.InStep policy ([], .start note) (.start ()) (.start note) :=
    ⟨.refl _, rfl⟩
  obtain ⟨hresult, hstep⟩ := parse_agree (Recorder.flat_relates policy) start bytes
  obtain ⟨hrouted, hevents⟩ := hstep (hresult.trans hok)
  exact ⟨hrouted, hevents.symm⟩

/-- A collection of two points in a collection of their own and a third one. -/
def nested : Tree :=
  .collection Form.plain .geometryCollection
    [.collection Form.plain .multiPoint
        [.point Form.plain ⟨.zero, .zero, .zero, .zero⟩,
          .point { Form.plain with order := .little } ⟨.zero, .zero, .zero, .zero⟩],
      .point Form.plain ⟨.zero, .zero, .zero, .zero⟩]

/-- The first item of each collection has a recorder of its own, within that of the first one. -/
theorem parse_independent_of_target_nested :
    let whole := (parse Recorder.alternate nested.bytes (.start ())).2
    let c : Coordinate := ⟨.zero, .zero, .nan, .nan⟩
    (parse Recorder.alternate nested.bytes (.start ())).1 = .ok () ∧
      (parse Recorder.separate nested.bytes (.start ())).1 = .ok () ∧
      whole.events =
        [.collection .geometryCollection 0 2, .item 0 2,
          .endItem 0 2 (some [.collection .multiPoint 0 2, .item 0 2,
            .endItem 0 2 (some [.point 0, .coordinate c 0 1]), .item 1 2, .point 0,
            .coordinate c 0 1, .endItem 1 2 none, .endCollection .multiPoint]),
          .item 1 2, .point 0, .coordinate c 0 1, .endItem 1 2 none,
          .endCollection .geometryCollection] ∧
      Recorder.Routed (fun _ index _ => if index % 2 = 0 then some () else none) (.start ())
        whole ∧
      Event.splicedAll whole.events = (parse Recorder.flat nested.bytes (.start ())).2.events := by
  have accepted : (parse Recorder.alternate nested.bytes (.start ())).1 = .ok () := rfl
  obtain ⟨hresult, hrouted, hevents⟩ :=
    (parse_independent_of_target Recorder.separate Recorder.alternate
      (fun _ index _ => if index % 2 = 0 then some () else none) nested.bytes (.start ())
      (.start ()) ()).imp_right (· accepted)
  exact ⟨accepted, hresult.trans accepted, rfl, hrouted, hevents⟩

end Geometry

end GeometryIndex

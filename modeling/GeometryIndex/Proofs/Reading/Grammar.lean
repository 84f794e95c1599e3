import GeometryIndex.Proofs.Reading.Parts

/-!
# Reading — the grammar of geometries

* `walk_reads`: a walk that is inside a geometry with the SRID `outer`, expects a kind and has
  `level` levels left accepts the well-formed trees of that kind with so many levels, and tells
  their events.  By induction on `level`; a collection goes on one level below.
* `parse_eq_ok_iff`: a whole input is accepted exactly when it is the form of a valid tree.
* `parse_accepts_exactly_trees`: so for every target that separates no items; what it is told are
  the events of the tree, whichever tree of that form is taken, and a recorder keeps just those.
-/

namespace GeometryIndex

universe u

/-! ### A recorder that separates no items keeps what it is told -/

/-- An event that carries nothing kept elsewhere. -/
def Event.Plain : Event → Prop
  | .endItem _ _ own => own = none
  | _ => True

namespace Tree

theorem exists_of_mem_pathEvents {form : Form} {path : List Coordinate} {e : Event}
    (h : e ∈ form.pathEvents path) : ∃ c index total, e = .coordinate c index total := by
  obtain ⟨index, _, rfl⟩ := List.mem_mapIdx.mp h
  exact ⟨_, index, path.length, rfl⟩

theorem exists_of_mem_innerEvents {form : Form} {rings : List (List Coordinate)} {e : Event}
    (h : e ∈ form.innerEvents rings) :
    (∃ points, e = .innerRing points) ∨ ∃ c index total, e = .coordinate c index total := by
  obtain ⟨ring, -, he⟩ := List.mem_flatMap.mp h
  rcases List.mem_cons.mp he with rfl | he
  · exact .inl ⟨ring.length, rfl⟩
  · exact .inr (exists_of_mem_pathEvents he)

theorem plain_pathEvents {form : Form} {path : List Coordinate} :
    ∀ e ∈ form.pathEvents path, e.Plain := by
  intro e he
  obtain ⟨c, index, total, rfl⟩ := exists_of_mem_pathEvents he
  trivial

theorem plain_innerEvents {form : Form} {rings : List (List Coordinate)} :
    ∀ e ∈ form.innerEvents rings, e.Plain := by
  intro e he
  rcases exists_of_mem_innerEvents he with ⟨points, rfl⟩ | ⟨c, index, total, rfl⟩ <;> trivial

mutual

theorem plain_events (outer : Int32) : ∀ (t : Tree), ∀ e ∈ t.events outer, e.Plain
  | .point form position => by
      rw [events]
      simp only [List.mem_cons]
      rintro e (rfl | he)
      · trivial
      · split at he
        · cases he
        · cases List.mem_singleton.1 he; trivial
  | .lineString form path => by
      rw [events]
      simp only [List.mem_cons]
      rintro e (rfl | he)
      · trivial
      · exact plain_pathEvents e he
  | .polygon form [] => by
      rw [events]
      simp only [List.mem_singleton]
      rintro e rfl
      trivial
  | .polygon form (ring :: rings) => by
      rw [events]
      simp only [List.mem_cons, List.mem_append, List.not_mem_nil, or_false]
      rintro e (rfl | (he | he) | rfl)
      · trivial
      · exact plain_pathEvents e he
      · exact plain_innerEvents e he
      · trivial
  | .collection form c items => by
      rw [events]
      simp only [List.mem_cons, List.mem_append, List.not_mem_nil, or_false]
      rintro e (rfl | he | rfl)
      · trivial
      · exact plain_eventsOfItems _ _ _ items e he
      · trivial

theorem plain_eventsOfItems (outer : Int32) (total index : Nat) :
    ∀ items : List Tree, ∀ e ∈ eventsOfItems outer total index items, e.Plain
  | [] => by simp [eventsOfItems]
  | item :: items => by
      rw [eventsOfItems]
      simp only [List.mem_cons, List.mem_append, List.not_mem_nil, or_false]
      rintro e (rfl | (he | rfl) | he)
      · trivial
      · exact plain_events outer item e he
      · rfl
      · exact plain_eventsOfItems outer total (index + 1) items e he

end

end Tree

namespace Recorder

theorem flat_isFlat : flat.IsFlat := fun _ _ _ => rfl

theorem flat_tell {e : Event} (h : e.Plain) (r : Recorder Unit) : flat.tell e r = r.keep e := by
  cases e with
  | endItem index total own => cases h; rfl
  | _ => rfl

theorem events_flat_tellAll {events : List Event} (h : ∀ e ∈ events, e.Plain)
    (r : Recorder Unit) : (flat.tellAll events r).events = r.events ++ events := by
  induction events generalizing r with
  | nil => simp
  | cons e events ih =>
    obtain ⟨he, hevents⟩ := List.forall_mem_cons.1 h
    rw [Target.tellAll_cons, flat_tell he, ih hevents]
    simp [keep]

end Recorder

/-! ### The walk over a geometry -/

namespace Geometry

open Walk

variable {σ : Type u} {t : Target σ}

/-- **A walk accepts the trees that fit where it stands**, and tells their events. -/
theorem walk_reads (flat : t.IsFlat) (level : Nat) (outer : Option Int32)
    (expected : Option Kind) :
    (walk t level outer expected).Reads t
      (fun tree => tree.WellFormed outer ∧ tree.HasKind expected ∧ tree.levels ≤ level)
      Tree.bytes fun tree => tree.events (outer.getD 0) := by
  induction level generalizing outer expected with
  | zero =>
    intro input state rest state'
    constructor
    · intro h
      cases h
    · rintro ⟨tree, ⟨-, -, hlevels⟩, -, -⟩
      exact absurd tree.levels_pos (Nat.not_lt_of_le hlevels)
  | succ level ih =>
    -- the items of a collection, one level below
    have items : ∀ (form : Form) (c : Collection),
        (walk t level (some (form.asHeader (.collection c) outer).srid) c.itemKind?).Reads t
          (fun tree => tree.WellFormed (some (form.srid.getD (outer.getD 0))) ∧
            tree.HasKind c.itemKind? ∧ tree.levels ≤ level)
          Tree.bytes fun tree => tree.events (form.asHeader (.collection c) outer).srid :=
      fun form c => ih (some (form.asHeader (.collection c) outer).srid) c.itemKind?
    intro input state rest state'
    rw [walk, read_eq_ok_iff]
    simp only [Header.readItem_eq_ok_iff]
    constructor
    · rintro ⟨_, mid, ⟨form, kind, hagree, hkind, hpass, rfl⟩, hrun⟩
      cases kind with
      | point =>
        obtain ⟨position, -, hbody, hstate⟩ := (walkPoint_reads _ _ _ _).1 hrun
        refine ⟨.point form position, ⟨?_, hkind, Nat.le_add_left 1 level⟩, ?_, hstate⟩
        · rw [Tree.WellFormed]; exact hagree
        · exact Input.passes_append.2 ⟨mid, hpass, hbody⟩
      | lineString =>
        obtain ⟨path, hpath, hbody, hstate⟩ := (walkLineString_reads _ _ _ _).1 hrun
        refine ⟨.lineString form path, ⟨?_, hkind, Nat.le_add_left 1 level⟩, ?_, hstate⟩
        · rw [Tree.WellFormed]; exact ⟨hagree, hpath⟩
        · exact Input.passes_append.2 ⟨mid, hpass, hbody⟩
      | polygon =>
        obtain ⟨rings, hrings, hbody, hstate⟩ := (walkPolygon_reads _ _ _ _).1 hrun
        refine ⟨.polygon form rings, ⟨?_, hkind, Nat.le_add_left 1 level⟩, ?_, hstate⟩
        · rw [Tree.WellFormed]; exact ⟨hagree, hrings⟩
        · rw [Tree.bytes, List.append_assoc]
          exact Input.passes_append.2 ⟨mid, hpass, hbody⟩
      | collection c =>
        obtain ⟨trees, ⟨hcount, htrees⟩, hbody, hstate⟩ :=
          (walkCollection_reads flat (items form c) _ _ _ _).1 hrun
        refine ⟨.collection form c trees, ⟨?_, hkind, ?_⟩, ?_, hstate⟩
        · rw [Tree.WellFormed, Tree.wellFormedItems_iff]
          exact ⟨hagree, hcount, fun tree h => ⟨(htrees tree h).1, (htrees tree h).2.1⟩⟩
        · rw [Tree.levels, Nat.add_le_add_iff_right, Tree.levelsOfItems_le_iff]
          exact fun tree h => (htrees tree h).2.2
        · rw [Tree.bytes, List.append_assoc]
          exact Input.passes_append.2 ⟨mid, hpass, hbody⟩
    · rintro ⟨tree, ⟨hformed, hkind, hlevels⟩, hpass, hstate⟩
      cases tree with
      | point form position =>
        rw [Tree.WellFormed] at hformed
        obtain ⟨mid, hpass, hbody⟩ := Input.passes_append.1 hpass
        exact ⟨_, mid, ⟨form, .point, hformed, hkind, hpass, rfl⟩,
          (walkPoint_reads _ _ _ _).2 ⟨position, trivial, hbody, hstate⟩⟩
      | lineString form path =>
        rw [Tree.WellFormed] at hformed
        obtain ⟨mid, hpass, hbody⟩ := Input.passes_append.1 hpass
        exact ⟨_, mid, ⟨form, .lineString, hformed.1, hkind, hpass, rfl⟩,
          (walkLineString_reads _ _ _ _).2 ⟨path, hformed.2, hbody, hstate⟩⟩
      | polygon form rings =>
        rw [Tree.WellFormed] at hformed
        rw [Tree.bytes, List.append_assoc] at hpass
        obtain ⟨mid, hpass, hbody⟩ := Input.passes_append.1 hpass
        exact ⟨_, mid, ⟨form, .polygon, hformed.1, hkind, hpass, rfl⟩,
          (walkPolygon_reads _ _ _ _).2 ⟨rings, hformed.2, hbody, hstate⟩⟩
      | collection form c trees =>
        rw [Tree.WellFormed, Tree.wellFormedItems_iff] at hformed
        rw [Tree.levels, Nat.add_le_add_iff_right, Tree.levelsOfItems_le_iff] at hlevels
        rw [Tree.bytes, List.append_assoc] at hpass
        obtain ⟨mid, hpass, hbody⟩ := Input.passes_append.1 hpass
        obtain ⟨hagree, hcount, htrees⟩ := hformed
        exact ⟨_, mid, ⟨form, .collection c, hagree, hkind, hpass, rfl⟩,
          (walkCollection_reads flat (items form c) _ _ _ _).2 ⟨trees, ⟨hcount, fun tree h =>
            ⟨(htrees tree h).1, (htrees tree h).2, hlevels tree h⟩⟩, hbody, hstate⟩⟩

/-! ### A whole input -/

/-- Whole inputs are accepted that are the form of a valid tree; its events are told. -/
theorem parse_eq_ok_iff (flat : t.IsFlat) {bytes : List UInt8} {state state' : σ} :
    parse t bytes state = (.ok (), state') ↔
      ∃ tree : Tree, tree.Valid ∧ tree.bytes = bytes ∧
        state' = t.tellAll (tree.events 0) state := by
  have ends : parse t bytes state = (.ok (), state') ↔
      ∃ rest : Input,
        walk t Tree.room none none (.ofBytes bytes) state = ⟨.ok rest, state'⟩ ∧
          rest.rest = [] := by
    unfold parse
    obtain ⟨result, after⟩ := walk t Tree.room none none (.ofBytes bytes) state
    cases result with
    | error fault => simp [bind, Except.bind]
    | ok rest =>
      by_cases h : rest.rest = []
      · simp [bind, Except.bind, pure, Except.pure, Input.remaining, h, and_assoc]
      · simp [bind, Except.bind, Input.remaining, h, and_assoc]
  rw [ends]
  constructor
  · rintro ⟨rest, hrun, hrest⟩
    obtain ⟨tree, ⟨hformed, -, hlevels⟩, ⟨hbytes, -⟩, hstate⟩ :=
      (walk_reads flat _ _ _ _ _ _ _).1 hrun
    rw [hrest, List.append_nil] at hbytes
    exact ⟨tree, ⟨hformed, hlevels⟩, hbytes.symm, hstate⟩
  · rintro ⟨tree, ⟨hformed, hlevels⟩, rfl, hstate⟩
    refine ⟨⟨tree.bytes.length, []⟩, (walk_reads flat _ _ _ _ _ _ _).2
      ⟨tree, ⟨hformed, by simp [Tree.HasKind], hlevels⟩, ⟨?_, ?_⟩, hstate⟩, rfl⟩
    · exact (List.append_nil _).symm
    · exact (Nat.zero_add _).symm

/-- What a target is asked for after a whole input is what the events of a tree make of it. -/
theorem parse_map_eq_ok_iff (flat : t.IsFlat) {α : Type} {g : σ → α} {bytes : List UInt8}
    {state : σ} {a : α} :
    ((parse t bytes state).1.map fun _ => g (parse t bytes state).2) = .ok a ↔
      ∃ tree : Tree, tree.Valid ∧ tree.bytes = bytes ∧
        a = g (t.tellAll (tree.events 0) state) := by
  constructor
  · intro h
    cases hparse : parse t bytes state with
    | mk result after =>
      rw [hparse] at h
      cases result with
      | error fault => cases h
      | ok =>
        obtain ⟨tree, hvalid, hbytes, rfl⟩ := (parse_eq_ok_iff flat).1 hparse
        exact ⟨tree, hvalid, hbytes, (Except.ok.inj h).symm⟩
  · rintro ⟨tree, hvalid, hbytes, rfl⟩
    rw [(parse_eq_ok_iff flat).2 ⟨tree, hvalid, hbytes, rfl⟩]
    rfl

/-- A recorder keeps the events of the tree that a whole input is the form of. -/
theorem events_flat {tree : Tree} {bytes : List UInt8} (hvalid : tree.Valid)
    (hbytes : tree.bytes = bytes) :
    (parse Recorder.flat bytes (.start ())).2.events = tree.events 0 := by
  rw [(parse_eq_ok_iff Recorder.flat_isFlat).2 ⟨tree, hvalid, hbytes, rfl⟩,
    Recorder.events_flat_tellAll (Tree.plain_events 0 tree)]
  rfl

/-- **The grammar.**  Bytes are accepted exactly when they are the binary form of a valid tree; then
the target is told the events of the tree in document order, and a recorder keeps just those. -/
theorem parse_accepts_exactly_trees (flat : t.IsFlat) (bytes : List UInt8) (state : σ) :
    ((parse t bytes state).1 = .ok () ↔ ∃ tree : Tree, tree.Valid ∧ tree.bytes = bytes) ∧
      ∀ tree : Tree, tree.Valid → tree.bytes = bytes →
        parse t bytes state = (.ok (), t.tellAll (tree.events 0) state) ∧
          (parse Recorder.flat bytes (.start ())).2.events = tree.events 0 := by
  refine ⟨⟨fun h => ?_, ?_⟩, fun tree hvalid hbytes => ⟨?_, ?_⟩⟩
  · obtain ⟨tree, hvalid, hbytes, -⟩ := (parse_eq_ok_iff flat).1 (Prod.ext h rfl)
    exact ⟨tree, hvalid, hbytes⟩
  · rintro ⟨tree, hvalid, hbytes⟩
    exact congrArg Prod.fst ((parse_eq_ok_iff flat).2 ⟨tree, hvalid, hbytes, rfl⟩)
  · exact (parse_eq_ok_iff flat).2 ⟨tree, hvalid, hbytes, rfl⟩
  · exact events_flat hvalid hbytes

/-- A collection with an SRID and two items in the other byte order: a point that repeats the SRID
and declares Z by the thousands of its code, with a negative zero for Y and some NaN for Z, and a
polygon without rings that declares M twice. -/
def mixed : Tree :=
  .collection { Form.plain with srid := some 4326 } .geometryCollection
    [.point { Form.plain with order := .little, zOffset := true, srid := some 4326 }
        ⟨.ofBits 0x3ff0000000000000, .ofBits 0x8000000000000000, .ofBits 0xfff0000000000001, .zero⟩,
      .polygon { Form.plain with order := .little, mFlag := true, mOffset := true } []]

theorem parse_accepts_exactly_trees_mixed :
    Recorder.flat.IsFlat ∧ mixed.Valid ∧
      (parse Recorder.flat mixed.bytes (.start ())).1 = .ok () ∧
      (parse Recorder.flat mixed.bytes (.start ())).2.events =
        [.collection .geometryCollection 4326 2, .item 0 2, .point 4326,
          .coordinate ⟨.ofBits 0x3ff0000000000000, .zero, .nan, .nan⟩ 0 1, .endItem 0 2 none,
          .item 1 2, .polygon 4326 0 0, .endItem 1 2 none,
          .endCollection .geometryCollection] := by
  have flat : Recorder.flat.IsFlat := fun _ _ _ => rfl
  have valid : mixed.Valid := by
    refine ⟨?_, by decide⟩
    simp [mixed, Tree.WellFormed, Tree.WellFormedItems, Tree.AgreesWith, Tree.HasKind, Tree.form,
      Tree.kind, Tree.srid, Tree.Countable, Form.plain, Collection.itemKind?, UInt32.size]
  have accepts := parse_accepts_exactly_trees flat mixed.bytes (.start ())
  refine ⟨flat, valid, accepts.1.2 ⟨mixed, valid, rfl⟩, ?_⟩
  rw [(accepts.2 mixed valid rfl).2]
  rfl

end Geometry

end GeometryIndex

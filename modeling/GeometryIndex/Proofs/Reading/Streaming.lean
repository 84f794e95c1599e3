import GeometryIndex.Proofs.Reading.Agreement
import GeometryIndex.Proofs.Reading.Grammar

/-!
# Reading — inputs that go on

What is read from the front of an input does not depend on what follows it.  Given more bytes, a
reader that succeeded answers the same, and one that failed fails in the same way, unless it had run
short (`Read.Steady`).  A walk carries this over to what it tells (`Walk.Streams`): the longer input
tells everything that the shorter one told, in the same order, and perhaps more.

The one place where a reader looks at what it does not read is the check of a count against the
bytes that are left.  More bytes can only let a count pass, and what is told before the check is the
same.

* `walk_streams`: by induction on the levels that are left;
* `parse_streams`: hence no whole input is the beginning of another one, and what is told of an
  input begins with what is told of any part of it from the front.
-/

namespace GeometryIndex

universe u

/-- The fault is that the input ended too early: bytes were missing, or there is no room for what a
count announces. -/
inductive DecodeFault.IsShortage : DecodeFault → Prop
  | truncated (need offset left : Nat) : IsShortage (.truncated need offset left)
  | count (elements left : Nat) : IsShortage (.count elements left)

namespace Input

/-- The input with more bytes after it. -/
def extend (input : Input) (more : List UInt8) : Input := ⟨input.offset, input.rest ++ more⟩

@[simp] theorem remaining_extend (input : Input) (more : List UInt8) :
    (input.extend more).remaining = input.remaining + more.length :=
  List.length_append

@[simp] theorem ofBytes_append (bytes more : List UInt8) :
    ofBytes (bytes ++ more) = (ofBytes bytes).extend more := rfl

theorem Passes.extend {input rest : Input} {front : List UInt8} (h : input.Passes front rest)
    (more : List UInt8) : (input.extend more).Passes front (rest.extend more) := by
  obtain ⟨hrest, hoffset⟩ := h
  refine ⟨?_, hoffset⟩
  show input.rest ++ more = front ++ (rest.rest ++ more)
  rw [hrest, List.append_assoc]

end Input

/-! ### Readers -/

/-- Given more input, the reader answers the same, and fails in the same way unless it ran short. -/
structure Read.Steady {α : Type} (r : Read α) : Prop where
  ok : ∀ {input rest : Input} {a : α} (more : List UInt8), r input = .ok (a, rest) →
    r (input.extend more) = .ok (a, rest.extend more)
  error : ∀ {input : Input} {fault : DecodeFault} (more : List UInt8), r input = .error fault →
    fault.IsShortage ∨ r (input.extend more) = .error fault

namespace Read.Steady

variable {α β : Type}

theorem pure (a : α) : Steady (Pure.pure a) where
  ok _ h := by
    obtain ⟨rfl, rfl⟩ := pure_eq_ok_iff.1 h
    rfl
  error _ h := by cases h

theorem fail (fault : DecodeFault) : Steady (Read.fail fault : Read α) where
  ok _ h := (fail_eq_ok_iff.1 h).elim
  error _ h := .inr h

theorem bind {first : Read α} {second : α → Read β} (h₁ : first.Steady)
    (h₂ : ∀ a, (second a).Steady) : Steady (first >>= second) where
  ok more h := by
    obtain ⟨a, mid, hfirst, hsecond⟩ := bind_eq_ok_iff.1 h
    exact bind_eq_ok_iff.2 ⟨a, mid.extend more, h₁.ok more hfirst, (h₂ a).ok more hsecond⟩
  error {input fault} more h := by
    have run (i : Input) : (first >>= second) i = (first i >>= fun p => second p.1 p.2) := rfl
    rw [run] at h ⊢
    cases hfirst : first input with
    | error fault' =>
      rw [hfirst] at h
      cases h
      refine (h₁.error more hfirst).imp_right fun hmore => ?_
      rw [hmore]
      rfl
    | ok p =>
      obtain ⟨a, mid⟩ := p
      rw [hfirst] at h
      rw [h₁.ok more hfirst]
      exact (h₂ a).error more h

theorem bytes (n : Nat) : Steady (Read.bytes n) where
  ok more h := by
    obtain ⟨hlength, hpass⟩ := bytes_eq_ok_iff.1 h
    exact bytes_eq_ok_iff.2 ⟨hlength, hpass.extend more⟩
  error _ h := by
    unfold Read.bytes at h
    split at h <;> cases h
    exact .inl (.truncated _ _ _)

theorem byteOrder : Steady Read.byteOrder := by
  refine (bytes 1).bind fun front => ?_
  dsimp only
  split
  · exact .pure _
  · exact .fail _

theorem word (order : ByteOrder) : Steady (Read.word order) :=
  (bytes 4).bind fun _ => .pure _

theorem double (order : ByteOrder) : Steady (Read.double order) :=
  (bytes 8).bind fun _ => .pure _

/-- A count that had room has room in a longer input; one that had none ran short. -/
theorem count (order : ByteOrder) (size : Nat) : Steady (Read.count order size) where
  ok {input rest n} more h := by
    obtain ⟨hn, hroom, hpass⟩ := count_eq_ok_iff.1 h
    refine count_eq_ok_iff.2 ⟨hn, Nat.le_trans hroom ?_, hpass.extend more⟩
    rw [Input.remaining_extend]
    exact Nat.div_le_div_right (Nat.le_add_right _ _)
  error {input fault} more h := by
    rw [count_apply] at h ⊢
    cases hword : Read.word order input with
    | error fault' =>
      rw [hword] at h
      cases h
      refine ((word order).error more hword).imp_right fun hmore => ?_
      rw [hmore]
      rfl
    | ok p =>
      rw [hword] at h
      simp only [Except.bind, Bind.bind] at h
      split at h <;> cases h
      exact .inl (.count _ _)

end Read.Steady

namespace Header

open Read

theorem readSrid_steady (order : ByteOrder) (announced : Bool) (outer : Option Int32) :
    (readSrid order announced outer).Steady := by
  unfold readSrid
  split
  · refine (Steady.word order).bind fun n => ?_
    cases outer with
    | none => exact .pure _
    | some around =>
      simp only
      split
      · exact .pure _
      · exact .fail _
  · exact .pure _

theorem read_steady (outer : Option Int32) : (read outer).Steady := by
  refine Steady.byteOrder.bind fun order => (Steady.word order).bind fun word =>
    (readSrid_steady order _ outer).bind fun srid => ?_
  dsimp only
  split
  · exact .pure _
  · exact .fail _

theorem readItem_steady (outer : Option Int32) (expected : Option Kind) :
    (readItem outer expected).Steady := by
  refine (read_steady outer).bind fun header => ?_
  split
  · split
    · exact .pure _
    · exact .fail _
  · exact .pure _

theorem readOrdinate_steady (h : Header) (declared : Bool) : (h.readOrdinate declared).Steady := by
  unfold readOrdinate
  split
  · exact (Steady.double h.order).bind fun _ => .pure _
  · exact .pure _

theorem readCoordinate_steady (h : Header) : h.readCoordinate.Steady :=
  (readOrdinate_steady h _).bind fun _ => (readOrdinate_steady h _).bind fun _ =>
    (readOrdinate_steady h _).bind fun _ => (readOrdinate_steady h _).bind fun _ => .pure _

end Header

/-! ### Walks -/

namespace Target

variable {σ : Type u} {t : Target σ} {x y z : σ}

/-- The target comes from one state to the other by being told events. -/
def Reaches (t : Target σ) (x y : σ) : Prop := ∃ events, y = t.tellAll events x

theorem Reaches.refl (t : Target σ) (x : σ) : t.Reaches x x := ⟨[], rfl⟩

theorem Reaches.trans (h₁ : t.Reaches x y) (h₂ : t.Reaches y z) : t.Reaches x z := by
  obtain ⟨events, rfl⟩ := h₁
  obtain ⟨events', rfl⟩ := h₂
  exact ⟨events ++ events', (t.tellAll_append events events' x).symm⟩

end Target

/-- The walk changes the state of the target only by telling it events.  Given more input, it ends
like before if it succeeded; if it failed, it fails in the same way, or it ran short and tells what
it told before and perhaps more. -/
structure Walk.Streams {σ : Type u} (w : Walk σ) (t : Target σ) : Prop where
  tells : ∀ input x, t.Reaches x (w input x).state
  ok : ∀ {input rest : Input} {x : σ} (more : List UInt8), (w input x).result = .ok rest →
    w (input.extend more) x = ⟨.ok (rest.extend more), (w input x).state⟩
  error : ∀ {input : Input} {x : σ} {fault : DecodeFault} (more : List UInt8),
    (w input x).result = .error fault →
      fault.IsShortage ∧ t.Reaches (w input x).state (w (input.extend more) x).state ∨
        w (input.extend more) x = ⟨.error fault, (w input x).state⟩

namespace Walk.Streams

variable {σ : Type u} {t : Target σ} {first second : Walk σ}

theorem fail (fault : DecodeFault) : (Walk.fail fault).Streams t where
  tells _ x := .refl t x
  ok _ h := by cases h
  error _ h := by
    cases h
    exact .inr rfl

theorem tellAll (events : List Event) : (Walk.tell (t.tellAll events)).Streams t where
  tells _ _ := ⟨events, rfl⟩
  ok _ h := by
    cases h
    rfl
  error _ h := by cases h

theorem tell (e : Event) : (Walk.tell (t.tell e)).Streams t := tellAll [e]

theorem read {α : Type} {r : Read α} {next : α → Walk σ} (hr : r.Steady)
    (hnext : ∀ a, (next a).Streams t) : (Walk.read r next).Streams t where
  tells input x := by
    cases hread : r input with
    | error fault =>
      rw [read_of_error hread]
      exact .refl t x
    | ok p =>
      rw [read_of_ok hread]
      exact (hnext p.1).tells p.2 x
  ok {input rest x} more h := by
    cases hread : r input with
    | error fault =>
      rw [read_of_error hread] at h
      cases h
    | ok p =>
      rw [read_of_ok hread] at h ⊢
      rw [read_of_ok (hr.ok more hread)]
      exact (hnext p.1).ok more h
  error {input x fault} more h := by
    cases hread : r input with
    | error fault' =>
      rw [read_of_error hread] at h ⊢
      cases h
      rcases hr.error more hread with hshort | hmore
      · -- nothing was told yet, so whatever is told of the longer input comes after it
        refine .inl ⟨hshort, ?_⟩
        cases hmore : r (input.extend more) with
        | error fault' =>
          rw [read_of_error hmore]
          exact .refl t x
        | ok p =>
          rw [read_of_ok hmore]
          exact (hnext p.1).tells p.2 x
      · exact .inr (read_of_error hmore next x)
    | ok p =>
      rw [read_of_ok hread] at h ⊢
      rw [read_of_ok (hr.ok more hread)]
      exact (hnext p.1).error more h

theorem andThen (h₁ : first.Streams t) (h₂ : second.Streams t) :
    (first.andThen second).Streams t where
  tells input x := by
    have hfirst := h₁.tells input x
    cases hresult : (first input x).result with
    | error fault =>
      rw [andThen_of_error hresult]
      exact hfirst
    | ok mid =>
      rw [andThen_of_ok hresult]
      exact hfirst.trans (h₂.tells mid _)
  ok {input rest x} more h := by
    cases hresult : (first input x).result with
    | error fault =>
      rw [andThen_of_error hresult] at h
      cases h
    | ok mid =>
      have hmore := h₁.ok more hresult
      rw [andThen_of_ok hresult] at h ⊢
      rw [andThen_of_ok (congrArg Outcome.result hmore), hmore]
      exact h₂.ok more h
  error {input x fault} more h := by
    cases hresult : (first input x).result with
    | error fault' =>
      rw [andThen_of_error hresult] at h ⊢
      cases h
      rcases h₁.error more hresult with ⟨hshort, hreach⟩ | hmore
      · refine .inl ⟨hshort, ?_⟩
        cases hmore : (first (input.extend more) x).result with
        | error fault' =>
          rw [andThen_of_error hmore]
          exact hreach
        | ok mid =>
          rw [andThen_of_ok hmore]
          exact hreach.trans (h₂.tells mid _)
      · exact .inr (by rw [andThen_of_error (congrArg Outcome.result hmore), hmore])
    | ok mid =>
      have hmore := h₁.ok more hresult
      rw [andThen_of_ok hresult] at h ⊢
      rw [andThen_of_ok (congrArg Outcome.result hmore), hmore]
      exact h₂.error more h

theorem each {body : Nat → Walk σ} (h : ∀ index, (body index).Streams t) (start count : Nat) :
    (Walk.each body start count).Streams t := by
  induction count generalizing start with
  | zero => exact tellAll []
  | succ count ih => exact (h start).andThen (ih (start + 1))

end Walk.Streams

namespace Geometry

open Walk

variable {σ : Type u} {t : Target σ}

/-! ### The parts of a geometry -/

theorem walkCoordinates_streams (t : Target σ) (h : Header) (total : Nat) :
    (walkCoordinates t h total).Streams t :=
  .each (fun index => .read h.readCoordinate_steady fun c => .tell (.coordinate c index total)) 0
    total

theorem walkPoint_streams (t : Target σ) (h : Header) : (walkPoint t h).Streams t := by
  refine .andThen (.tell (.point h.srid)) (.read h.readCoordinate_steady fun c => ?_)
  split
  · exact .tellAll []
  · exact .tell (.coordinate c 0 1)

theorem walkLineString_streams (t : Target σ) (h : Header) : (walkLineString t h).Streams t :=
  .read (.count _ _) fun n => .andThen (.tell (.lineString h.srid n)) (walkCoordinates_streams t h n)

theorem walkInnerRing_streams (t : Target σ) (h : Header) : (walkInnerRing t h).Streams t :=
  .read (.count _ _) fun n => .andThen (.tell (.innerRing n)) (walkCoordinates_streams t h n)

theorem walkPolygon_streams (t : Target σ) (h : Header) : (walkPolygon t h).Streams t := by
  refine .read (.count _ _) fun rings => ?_
  cases rings with
  | zero => exact .tell (.polygon h.srid 0 0)
  | succ inner =>
    exact .read (.count _ _) fun n => .andThen (.tell (.polygon h.srid inner n)) <|
      .andThen (walkCoordinates_streams t h n) <|
        .andThen (.each (fun _ => walkInnerRing_streams t h) 0 inner) (.tell .endPolygon)

theorem walkItem_streams (flat : t.IsFlat) {item : Walk σ} (hitem : item.Streams t)
    (total index : Nat) : (walkItem t item total index).Streams t := by
  rw [walkItem_eq flat]
  exact .andThen (.tell (.item index total))
    (.andThen hitem (.tell (.endItem index total none)))

theorem walkCollection_streams (flat : t.IsFlat) {item : Walk σ} (hitem : item.Streams t)
    (h : Header) (c : Collection) : (walkCollection t h c item).Streams t :=
  .read (.count _ _) fun n => .andThen (.tell (.collection c h.srid n)) <|
    .andThen (.each (walkItem_streams flat hitem n) 0 n) (.tell (.endCollection c))

/-! ### Geometries -/

/-- **A walk streams its input**, if its target separates no items. -/
theorem walk_streams (flat : t.IsFlat) (level : Nat) (outer : Option Int32)
    (expected : Option Kind) : (walk t level outer expected).Streams t := by
  induction level generalizing outer expected with
  | zero => exact .fail .nesting
  | succ level ih =>
    refine .read (Header.readItem_steady outer expected) fun h => ?_
    cases h.kind with
    | point => exact walkPoint_streams t h
    | lineString => exact walkLineString_streams t h
    | polygon => exact walkPolygon_streams t h
    | collection c => exact walkCollection_streams flat (ih (some h.srid) c.itemKind?) h c

/-! ### Whole inputs -/

variable {p s : List UInt8} {x : σ}

theorem parse_of_walk_ok {rest : Input}
    (h : (walk t Tree.room none none (.ofBytes p) x).result = .ok rest) :
    (parse t p x).1 =
      if rest.remaining = 0 then .ok () else .error (.trailing rest.remaining) := by
  rw [parse_result, h]
  rfl

theorem parse_of_walk_error {fault : DecodeFault}
    (h : (walk t Tree.room none none (.ofBytes p) x).result = .error fault) :
    (parse t p x).1 = .error fault := by
  rw [parse_result, h]
  rfl

/-- What is told of an input is told of any longer one, too. -/
theorem parse_reaches (flat : t.IsFlat) (p s : List UInt8) (x : σ) :
    t.Reaches (parse t p x).2 (parse t (p ++ s) x).2 := by
  have streams := walk_streams flat Tree.room none none
  show t.Reaches (walk t _ _ _ (.ofBytes p) x).state (walk t _ _ _ (.ofBytes (p ++ s)) x).state
  rw [Input.ofBytes_append]
  cases hwalk : (walk t Tree.room none none (.ofBytes p) x).result with
  | ok rest =>
    rw [streams.ok s hwalk]
    exact .refl t _
  | error fault =>
    rcases streams.error s hwalk with ⟨-, hreach⟩ | hmore
    · exact hreach
    · rw [hmore]
      exact .refl t _

/-- What follows an accepted input is told nobody, and refused. -/
theorem parse_append_of_ok (flat : t.IsFlat) (h : (parse t p x).1 = .ok ()) (hs : s ≠ []) :
    parse t (p ++ s) x = (.error (.trailing s.length), (parse t p x).2) := by
  have streams := walk_streams flat Tree.room none none
  cases hwalk : (walk t Tree.room none none (.ofBytes p) x).result with
  | error fault =>
    rw [parse_of_walk_error hwalk] at h
    cases h
  | ok rest =>
    have hend : rest.remaining = 0 := by
      rw [parse_of_walk_ok hwalk] at h
      split at h
      · assumption
      · cases h
    have hmore := streams.ok s hwalk
    rw [← Input.ofBytes_append] at hmore
    refine Prod.ext ?_ (congrArg (·.state) hmore)
    rw [parse_of_walk_ok (congrArg Outcome.result hmore), Input.remaining_extend, hend,
      Nat.zero_add, if_neg fun hempty => hs (List.length_eq_zero_iff.1 hempty)]

/-- An input that is refused without having run short stays refused, whatever follows. -/
theorem parse_append_of_error (flat : t.IsFlat) {fault : DecodeFault}
    (h : (parse t p x).1 = .error fault) (s : List UInt8) :
    fault.IsShortage ∨ (parse t (p ++ s) x).1 ≠ .ok () := by
  have streams := walk_streams flat Tree.room none none
  cases hwalk : (walk t Tree.room none none (.ofBytes p) x).result with
  | error fault' =>
    obtain rfl : fault' = fault := by
      rw [parse_of_walk_error hwalk] at h
      exact Except.error.inj h
    refine (streams.error s hwalk).imp And.left fun hmore => ?_
    rw [← Input.ofBytes_append] at hmore
    rw [parse_of_walk_error (congrArg Outcome.result hmore)]
    nofun
  | ok rest =>
    -- bytes are left over, and those that follow make them more
    have hleft : rest.remaining ≠ 0 := by
      rw [parse_of_walk_ok hwalk] at h
      split at h
      · cases h
      · assumption
    have hmore := streams.ok s hwalk
    rw [← Input.ofBytes_append] at hmore
    refine .inr ?_
    rw [parse_of_walk_ok (congrArg Outcome.result hmore), Input.remaining_extend,
      if_neg fun hzero => hleft (Nat.add_eq_zero_iff.1 hzero).1]
    nofun

end Geometry

/-! ### What a recorder keeps -/

namespace Recorder

theorem prefix_flat_tell (e : Event) (r : Recorder Unit) : r.events <+: (flat.tell e r).events := by
  cases e <;> exact List.prefix_append _ _

/-- A recorder that is told more forgets nothing. -/
theorem prefix_of_reaches {r r' : Recorder Unit} (h : flat.Reaches r r') :
    r.events <+: r'.events := by
  obtain ⟨events, rfl⟩ := h
  induction events generalizing r with
  | nil => exact List.prefix_rfl
  | cons e events ih => exact (prefix_flat_tell e r).trans ih

end Recorder

namespace Geometry

/-- **Reading streams, and no accepted input begins another one.**  Let `p` be followed by `s`.
What a recorder keeps of `p`, accepted or not, is the beginning of what it keeps of both.  If `p` is
accepted and something follows, the same is kept, and the input is refused for the bytes that
follow, all of which are counted.  If both together are accepted and `s` is not empty, `p` alone is
refused, and only because it ends too early. -/
theorem parse_streams (p s : List UInt8) :
    (parse Recorder.flat p (.start ())).2.events <+:
        (parse Recorder.flat (p ++ s) (.start ())).2.events ∧
      ((parse Recorder.flat p (.start ())).1 = .ok () → s ≠ [] →
        (parse Recorder.flat (p ++ s) (.start ())).1 = .error (.trailing s.length) ∧
          (parse Recorder.flat (p ++ s) (.start ())).2.events =
            (parse Recorder.flat p (.start ())).2.events) ∧
      ((parse Recorder.flat (p ++ s) (.start ())).1 = .ok () → s ≠ [] →
        ∃ fault : DecodeFault,
          (parse Recorder.flat p (.start ())).1 = .error fault ∧ fault.IsShortage) := by
  have flat := Recorder.flat_isFlat
  refine ⟨Recorder.prefix_of_reaches (parse_reaches flat p s _), fun hok hs => ?_,
    fun hok hs => ?_⟩
  · rw [parse_append_of_ok flat hok hs]
    exact ⟨rfl, rfl⟩
  · cases hparse : (parse Recorder.flat p (.start ())).1 with
    | ok =>
      rw [parse_append_of_ok flat hparse hs] at hok
      cases hok
    | error fault =>
      exact ⟨fault, rfl, (parse_append_of_error flat hparse s).resolve_right fun h => h hok⟩

/-- A collection that is cut off within the coordinate of its first item, and one that is followed
by two bytes. -/
theorem parse_streams_mixed :
    (parse Recorder.flat (mixed.bytes.take 40) (.start ())).2.events =
        [.collection .geometryCollection 4326 2, .item 0 2, .point 4326] ∧
      (parse Recorder.flat (mixed.bytes.take 40) (.start ())).2.events <+:
        (parse Recorder.flat mixed.bytes (.start ())).2.events ∧
      (∃ fault : DecodeFault,
        (parse Recorder.flat (mixed.bytes.take 40) (.start ())).1 = .error fault ∧
          fault.IsShortage) ∧
      (parse Recorder.flat (mixed.bytes ++ [0, 1]) (.start ())).1 = .error (.trailing 2) ∧
      (parse Recorder.flat (mixed.bytes ++ [0, 1]) (.start ())).2.events =
        (parse Recorder.flat mixed.bytes (.start ())).2.events := by
  have accepted : (parse Recorder.flat mixed.bytes (.start ())).1 = .ok () := rfl
  obtain ⟨hkept, -, hshort⟩ := parse_streams (mixed.bytes.take 40) (mixed.bytes.drop 40)
  rw [List.take_append_drop] at hkept hshort
  exact ⟨rfl, hkept, hshort accepted (by decide),
    (parse_streams mixed.bytes [0, 1]).2.1 accepted (by decide)⟩

end Geometry

end GeometryIndex

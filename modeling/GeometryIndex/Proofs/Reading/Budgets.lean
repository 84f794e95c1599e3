import GeometryIndex.Proofs.Reading.Scripts
import Mathlib.Algebra.GroupWithZero.Nat

/-!
# Reading — what is told is paid for by what is read

Every event has a price in bytes: a coordinate takes 16, the start of a geometry 5 and the start of
an inner ring 4.  A script never tells more than the bytes that it has read are worth
(`Script.Pays`).  Where the bytes come before the event, they stand as a credit: the 5 bytes of a
header pay for the start that follows it, and the 4 bytes of a count for the ring.  So a fault
anywhere leaves no debt.

Whatever announces a number of elements was counted, and a count is accepted only if there is room
for so many elements in what is left (`Call.Backed`).

* `Script.Pays.read`, `Script.Pays.tell`: reading raises the credit, telling lowers it;
* `Geometry.script_pays`: by induction on the levels that are left;
* `Geometry.parse_within_input`: hence for whole inputs, accepted or not.
-/

namespace GeometryIndex

universe u

/-! ### Where a reader can be -/

namespace Input

/-- The length of the whole input. -/
def total (input : Input) : Nat := input.offset + input.remaining

/-- `rest` is left of `input` when some more has been read. -/
def ComesTo (input rest : Input) : Prop := ∃ front, input.Passes front rest

variable {input mid rest : Input} {front : List UInt8}

theorem Passes.remaining (h : input.Passes front rest) :
    input.remaining = front.length + rest.remaining := by
  rw [Input.remaining, h.1, List.length_append]
  rfl

theorem ComesTo.refl (input : Input) : input.ComesTo input := ⟨[], passes_nil.2 rfl⟩

theorem ComesTo.trans (h₁ : input.ComesTo mid) (h₂ : mid.ComesTo rest) : input.ComesTo rest := by
  obtain ⟨front, hfront⟩ := h₁
  obtain ⟨back, hback⟩ := h₂
  exact ⟨front ++ back, passes_append.2 ⟨mid, hfront, hback⟩⟩

/-- Reading on does not change how long the whole input is. -/
theorem ComesTo.total (h : input.ComesTo rest) : rest.total = input.total := by
  obtain ⟨front, hpass⟩ := h
  rw [Input.total, Input.total, hpass.remaining, hpass.2, Nat.add_assoc]

/-- The reader stands inside the whole input, and what is left is what follows there. -/
theorem ComesTo.ofBytes {bytes : List UInt8} (h : (ofBytes bytes).ComesTo rest) :
    rest.offset ≤ bytes.length ∧ rest.rest = bytes.drop rest.offset := by
  obtain ⟨front, hbytes, hoffset⟩ := h
  have hoffset : rest.offset = front.length := hoffset.trans (Nat.zero_add _)
  have hbytes : bytes = front ++ rest.rest := hbytes
  rw [hbytes, hoffset, List.drop_left, List.length_append]
  exact ⟨Nat.le_add_right _ _, rfl⟩

end Input

/-- Where the fault says that the reader stands, and what it says is left, are so in an input of
`total` bytes. -/
def DecodeFault.Within (total : Nat) : DecodeFault → Prop
  | .truncated _ offset left => offset + left = total
  | .count _ left | .trailing left => left ≤ total
  | _ => True

/-- The reader reads on, by at least `least` bytes, and where it fails its fault says so rightly. -/
structure Read.Takes {α : Type} (r : Read α) (least : Nat) : Prop where
  ok : ∀ {input rest : Input} {a : α}, r input = .ok (a, rest) →
    input.ComesTo rest ∧ least + rest.remaining ≤ input.remaining
  error : ∀ {input : Input} {fault : DecodeFault}, r input = .error fault →
    fault.Within input.total

namespace Read.Takes

variable {α β : Type} {r : Read α} {least : Nat}

theorem pure (a : α) : Takes (Pure.pure a) 0 where
  ok h := by
    obtain ⟨rfl, rfl⟩ := pure_eq_ok_iff.1 h
    exact ⟨.refl _, Nat.le_of_eq (Nat.zero_add _)⟩
  error h := by cases h

theorem fail {fault : DecodeFault} (h : ∀ total, fault.Within total) :
    Takes (Read.fail fault : Read α) least where
  ok h := (fail_eq_ok_iff.1 h).elim
  error hfault := by
    cases hfault
    exact h _

theorem bind {first : Read α} {second : α → Read β} {n : Nat} (h₁ : first.Takes least)
    (h₂ : ∀ a, (second a).Takes n) : Takes (first >>= second) (least + n) where
  ok h := by
    obtain ⟨a, mid, hfirst, hsecond⟩ := bind_eq_ok_iff.1 h
    obtain ⟨onward, hleast⟩ := h₁.ok hfirst
    obtain ⟨onward', hmore⟩ := (h₂ a).ok hsecond
    exact ⟨onward.trans onward', by omega⟩
  error {input fault} h := by
    have run : (first >>= second) input = (first input >>= fun p => second p.1 p.2) := rfl
    rw [run] at h
    cases hfirst : first input with
    | error fault' =>
      rw [hfirst] at h
      cases h
      exact h₁.error hfirst
    | ok p =>
      rw [hfirst] at h
      rw [← (h₁.ok hfirst).1.total]
      exact (h₂ p.1).error h

theorem mono {least' : Nat} (h : r.Takes least) (hle : least' ≤ least) : r.Takes least' where
  ok hok := ⟨(h.ok hok).1, Nat.le_trans (Nat.add_le_add_right hle _) (h.ok hok).2⟩
  error := h.error

theorem bytes (n : Nat) : Takes (Read.bytes n) n where
  ok h := by
    obtain ⟨hlength, hpass⟩ := bytes_eq_ok_iff.1 h
    exact ⟨⟨_, hpass⟩, Nat.le_of_eq (by rw [hpass.remaining, hlength])⟩
  error h := by
    unfold Read.bytes at h
    split at h <;> cases h
    rfl

theorem byteOrder : Takes Read.byteOrder 1 := by
  refine (bytes 1).bind (n := 0) fun front => ?_
  dsimp only
  split
  · exact .pure _
  · exact .fail fun _ => trivial

theorem word (order : ByteOrder) : Takes (Read.word order) 4 :=
  (bytes 4).bind fun _ => .pure _

theorem double (order : ByteOrder) : Takes (Read.double order) 8 :=
  (bytes 8).bind fun _ => .pure _

theorem count (order : ByteOrder) (size : Nat) : Takes (Read.count order size) 4 where
  ok {input rest n} h := by
    obtain ⟨-, -, hpass⟩ := count_eq_ok_iff.1 h
    exact ⟨⟨_, hpass⟩, Nat.le_of_eq (by rw [hpass.remaining, ByteOrder.length_encode])⟩
  error {input fault} h := by
    rw [count_apply] at h
    cases hword : Read.word order input with
    | error fault' =>
      rw [hword] at h
      cases h
      exact (word order).error hword
    | ok p =>
      rw [hword] at h
      simp only [Except.bind, Bind.bind] at h
      split at h <;> cases h
      rw [← ((word order).ok hword).1.total]
      exact Nat.le_add_left _ _

end Read.Takes

namespace Header

open Read

theorem readSrid_takes (order : ByteOrder) (announced : Bool) (outer : Option Int32) :
    (readSrid order announced outer).Takes 0 := by
  unfold readSrid
  split
  · refine ((Takes.word order).mono (Nat.zero_le 4)).bind (n := 0) fun n => ?_
    cases outer with
    | none => exact .pure _
    | some around =>
      simp only
      split
      · exact .pure _
      · exact .fail fun _ => trivial
  · exact .pure _

theorem read_takes (outer : Option Int32) : (read outer).Takes Geometry.leastItem := by
  refine Takes.byteOrder.bind (n := 4) fun order => (Takes.word order).bind (n := 0) fun word =>
    (readSrid_takes order _ outer).bind (n := 0) fun srid => ?_
  dsimp only
  split
  · exact .pure _
  · exact .fail fun _ => trivial

theorem readItem_takes (outer : Option Int32) (expected : Option Kind) :
    (readItem outer expected).Takes Geometry.leastItem := by
  refine (read_takes outer).bind (n := 0) fun header => ?_
  split
  · split
    · exact .pure _
    · exact .fail fun _ => trivial
  · exact .pure _

theorem readOrdinate_takes (h : Header) (declared : Bool) :
    (h.readOrdinate declared).Takes (8 * declared.toNat) := by
  unfold readOrdinate
  cases declared with
  | true => exact (Takes.double h.order).bind (n := 0) fun _ => .pure _
  | false => exact .pure _

theorem readCoordinate_takes (h : Header) : h.readCoordinate.Takes h.coordinateSize := by
  have taken := (readOrdinate_takes h true).bind fun x => (readOrdinate_takes h true).bind fun y =>
    (readOrdinate_takes h h.hasZ).bind fun z => (readOrdinate_takes h h.hasM).bind fun m =>
      Takes.pure (Coordinate.mk x y z m)
  refine taken.mono (Nat.le_of_eq ?_)
  simp only [coordinateSize, Bool.toNat_true]
  omega

end Header

/-! ### What is told -/

namespace Event

def isCoordinate : Event → Bool
  | .coordinate .. => true
  | _ => false

/-- The start of a geometry. -/
def isStart : Event → Bool
  | .point .. | .lineString .. | .polygon .. | .collection .. => true
  | _ => false

def isInnerRing : Event → Bool
  | .innerRing .. => true
  | _ => false

/-- The least number of bytes that an event stands for. -/
def price : Event → Nat
  | .coordinate .. => 16
  | .point .. | .lineString .. | .polygon .. | .collection .. => Geometry.leastItem
  | .innerRing .. => Geometry.leastRing
  | _ => 0

/-- The price of events, by kinds. -/
theorem sum_price (events : List Event) :
    (events.map price).sum = 16 * events.countP isCoordinate + 5 * events.countP isStart +
      4 * events.countP isInnerRing := by
  induction events with
  | nil => rfl
  | cons e events ih =>
    rw [List.map_cons, List.sum_cons, ih]
    simp only [List.countP_cons]
    cases e <;> simp [price, isCoordinate, isStart, isInnerRing, Geometry.leastItem,
      Geometry.leastRing] <;> omega

/-- The bytes of a coordinate pay for it. -/
theorem price_coordinate_le (c : Coordinate) (index total credit : Nat) (h : Header) :
    (coordinate c index total).price ≤ credit + h.coordinateSize := by
  show 16 ≤ credit + h.coordinateSize
  unfold Header.coordinateSize
  omega

end Event

/-- What is announced is there: so many coordinates of the declared size, so many inner rings of a
count each, or so many items of a header each.  What is left is measured when the event is told,
after the counts have been read. -/
def Call.Backed (call : Call) : Prop :=
  match call.event with
  | .lineString _ points | .innerRing points =>
    points * call.header.coordinateSize ≤ call.input.remaining
  | .polygon _ inner points =>
    points * call.header.coordinateSize ≤ call.input.remaining ∧
      Geometry.leastRing * inner ≤ call.input.remaining
  | .collection _ _ items => Geometry.leastItem * items ≤ call.input.remaining
  | _ => True

namespace Script

/-- The price of what is told. -/
def price (s : Script) (input : Input) : Nat :=
  ((s.calls input).map fun call => call.event.price).sum

/-- What is told of an input is backed and is paid for, to the end or to a fault, by a credit and by
the bytes that are read. -/
structure Pays (s : Script) (credit : Nat) (input : Input) : Prop where
  backed : ∀ call ∈ s.calls input, call.Backed
  onward : ∀ stop ∈ s.stops input, input.ComesTo stop
  ok : ∀ rest, s.result input = .ok rest →
    input.ComesTo rest ∧ s.price input + rest.remaining ≤ credit + input.remaining
  error : ∀ fault, s.result input = .error fault →
    fault.Within input.total ∧ s.price input ≤ credit + input.remaining

namespace Pays

variable {credit least : Nat} {input : Input} {first second next : Script}

theorem done : Pays .done credit input where
  backed := nofun
  onward := by
    rintro stop hstop
    obtain rfl := List.mem_singleton.mp hstop
    exact .refl _
  ok rest h := by
    cases h
    exact ⟨.refl _, Nat.add_le_add_right (Nat.zero_le credit) _⟩
  error _ h := by cases h

theorem fail {fault : DecodeFault} (h : ∀ total, fault.Within total) :
    Pays (.fail fault) credit input where
  backed := nofun
  onward := by
    rintro stop hstop
    obtain rfl := List.mem_singleton.mp hstop
    exact .refl _
  ok _ hok := by cases hok
  error _ herror := by
    cases herror
    exact ⟨h _, Nat.zero_le _⟩

/-- An event is told on credit; what comes after it pays for itself. -/
theorem tell {h : Header} {e : Event} (hbacked : (⟨h, input, e⟩ : Call).Backed)
    (hprice : e.price ≤ credit) (hnext : next.Pays 0 input) :
    (Script.tell h e next).Pays credit input := by
  have price : (Script.tell h e next).price input = e.price + next.price input := rfl
  refine ⟨fun call hcall => ?_, hnext.onward, fun rest hok => ?_, fun fault herror => ?_⟩
  · rcases List.mem_cons.mp hcall with rfl | hcall
    · exact hbacked
    · exact hnext.backed call hcall
  · obtain ⟨onward, hpaid⟩ := hnext.ok rest hok
    exact ⟨onward, by omega⟩
  · obtain ⟨within, hpaid⟩ := hnext.error fault herror
    exact ⟨within, by omega⟩

/-- Reading raises the credit by the bytes that are read. -/
theorem read {α : Type} {r : Read α} {next : α → Script} (hr : r.Takes least)
    (hnext : ∀ a rest, r input = .ok (a, rest) → (next a).Pays (credit + least) rest) :
    (Script.read r next).Pays credit input := by
  cases hread : r input with
  | error fault =>
    have calls : (Script.read r next).calls input = [] := by simp only [Script.calls, hread]
    have stops : (Script.read r next).stops input = [input] := by simp only [Script.stops, hread]
    have result : (Script.read r next).result input = .error fault := by
      simp only [Script.result, hread]
    have price : (Script.read r next).price input = 0 := by rw [Script.price, calls]; rfl
    refine ⟨by simp [calls], fun stop hstop => ?_, by simp [result], fun fault' herror => ?_⟩
    · rw [stops] at hstop
      obtain rfl := List.mem_singleton.mp hstop
      exact .refl _
    · cases result.symm.trans herror
      exact ⟨hr.error hread, by omega⟩
  | ok p =>
    obtain ⟨a, rest⟩ := p
    have hpays := hnext a rest hread
    obtain ⟨onward, hleast⟩ := hr.ok hread
    have calls : (Script.read r next).calls input = (next a).calls rest := by
      simp only [Script.calls, hread]
    have stops : (Script.read r next).stops input = input :: (next a).stops rest := by
      simp only [Script.stops, hread]
    have result : (Script.read r next).result input = (next a).result rest := by
      simp only [Script.result, hread]
    have price : (Script.read r next).price input = (next a).price rest := by
      rw [Script.price, calls]; rfl
    refine ⟨by rw [calls]; exact hpays.backed, fun stop hstop => ?_, fun rest' hok => ?_,
      fun fault herror => ?_⟩
    · rw [stops] at hstop
      rcases List.mem_cons.mp hstop with rfl | hstop
      · exact .refl _
      · exact onward.trans (hpays.onward stop hstop)
    · obtain ⟨onward', hpaid⟩ := hpays.ok rest' (result.symm.trans hok)
      exact ⟨onward.trans onward', by omega⟩
    · obtain ⟨within, hpaid⟩ := hpays.error fault (result.symm.trans herror)
      rw [onward.total] at within
      exact ⟨within, by omega⟩

theorem andThen (h₁ : first.Pays credit input)
    (h₂ : ∀ rest, first.result input = .ok rest → second.Pays 0 rest) :
    (first.andThen second).Pays credit input := by
  have result := result_andThen first second input
  have calls := calls_andThen first second input
  have onward : ∀ stop ∈ (first.andThen second).stops input, input.ComesTo stop := by
    intro stop hstop
    rcases mem_stops_andThen hstop with hstop | ⟨rest, hfirst, hstop⟩
    · exact h₁.onward stop hstop
    · exact (h₁.ok rest hfirst).1.trans ((h₂ rest hfirst).onward stop hstop)
  cases hfirst : first.result input with
  | error fault =>
    rw [hfirst] at result calls
    have calls : (first.andThen second).calls input = first.calls input :=
      calls.trans (List.append_nil _)
    have price : (first.andThen second).price input = first.price input := by
      rw [Script.price, calls]; rfl
    obtain ⟨within, hpaid⟩ := h₁.error fault hfirst
    refine ⟨by rw [calls]; exact h₁.backed, onward, by rw [result]; nofun,
      fun fault' herror => ?_⟩
    cases result.symm.trans herror
    exact ⟨within, by omega⟩
  | ok rest =>
    rw [hfirst] at result calls
    have price : (first.andThen second).price input = first.price input + second.price rest := by
      rw [Script.price, calls, List.map_append, List.sum_append]; rfl
    obtain ⟨onward', hpaid⟩ := h₁.ok rest hfirst
    have hpays := h₂ rest hfirst
    refine ⟨fun call hcall => ?_, onward, fun rest' hok => ?_, fun fault herror => ?_⟩
    · rw [calls] at hcall
      exact (List.mem_append.mp hcall).elim (h₁.backed call) (hpays.backed call)
    · obtain ⟨onward'', hpaid'⟩ := hpays.ok rest' (result.symm.trans hok)
      exact ⟨onward'.trans onward'', by omega⟩
    · obtain ⟨within, hpaid'⟩ := hpays.error fault (result.symm.trans herror)
      rw [onward'.total] at within
      exact ⟨within, by omega⟩

theorem each {body : Nat → Script} (h : ∀ index input, (body index).Pays 0 input)
    (start count : Nat) (input : Input) : (Script.each body start count).Pays 0 input := by
  induction count generalizing start input with
  | zero => exact .done
  | succ count ih => exact (h start input).andThen fun rest _ => ih (start + 1) rest

end Pays

end Script

namespace Geometry

open Script

/-! ### The parts of a geometry -/

theorem scriptCoordinates_pays (h : Header) (total : Nat) (input : Input) :
    (scriptCoordinates h total).Pays 0 input := by
  refine .each (fun index input => .read h.readCoordinate_takes fun c rest _ => ?_) 0 total input
  exact .tell trivial (Event.price_coordinate_le c index total 0 h) .done

theorem scriptPoint_pays (h : Header) (input : Input) : (scriptPoint h).Pays leastItem input := by
  refine .tell trivial (Nat.le_refl _) (.read h.readCoordinate_takes fun c rest _ => ?_)
  split
  · exact .done
  · exact .tell trivial (Event.price_coordinate_le _ _ _ _ h) .done

/-- A count has room for what it counts. -/
theorem backed_of_count {order : ByteOrder} {size n : Nat} {input rest : Input}
    (h : Read.count order size input = .ok (n, rest)) : n * size ≤ rest.remaining := by
  obtain ⟨-, hroom, -⟩ := Read.count_eq_ok_iff.1 h
  exact Nat.le_trans (Nat.mul_le_mul_right size hroom) (Nat.div_mul_le_self _ _)

theorem scriptLineString_pays (h : Header) (input : Input) :
    (scriptLineString h).Pays leastItem input :=
  .read (.count _ _) fun n rest hcount =>
    .tell (backed_of_count hcount) (Nat.le_add_right _ _) (scriptCoordinates_pays h n rest)

/-- The count of an inner ring pays for it. -/
theorem scriptInnerRing_pays (h : Header) (input : Input) : (scriptInnerRing h).Pays 0 input :=
  .read (.count _ _) fun n rest hcount =>
    .tell (backed_of_count hcount) (Nat.le_refl _) (scriptCoordinates_pays h n rest)

theorem scriptPolygon_pays (h : Header) (input : Input) :
    (scriptPolygon h).Pays leastItem input := by
  refine .read (.count _ _) fun rings afterRings hrings => ?_
  have room := backed_of_count hrings
  cases rings with
  | zero =>
    refine .tell ⟨?_, Nat.zero_le _⟩ (Nat.le_add_right _ _) .done
    rw [Nat.zero_mul]
    exact Nat.zero_le _
  | succ inner =>
    refine .read (.count _ _) fun n rest hcount => ?_
    -- the outer ring has been counted, so what is left of the room is for the inner ones
    have inner_room : leastRing * inner ≤ rest.remaining := by
      obtain ⟨-, -, hpass⟩ := Read.count_eq_ok_iff.1 hcount
      rw [hpass.remaining, ByteOrder.length_encode, leastRing] at room
      rw [leastRing]
      omega
    refine .tell ⟨backed_of_count hcount, inner_room⟩ (Nat.le_add_right _ 8) ?_
    refine (scriptCoordinates_pays h n rest).andThen fun rest₁ _ => ?_
    refine (Pays.each (fun _ => scriptInnerRing_pays h) 0 inner rest₁).andThen fun rest₂ _ => ?_
    exact .tell trivial (Nat.le_refl _) .done

theorem scriptItem_pays {item : Script} (hitem : ∀ input, item.Pays 0 input) (h : Header)
    (total index : Nat) (input : Input) : (scriptItem h item total index).Pays 0 input :=
  .tell trivial (Nat.le_refl _) <| (hitem input).andThen fun _ _ =>
    .tell trivial (Nat.le_refl _) .done

theorem scriptCollection_pays {item : Script} (hitem : ∀ input, item.Pays 0 input) (h : Header)
    (c : Collection) (input : Input) : (scriptCollection h c item).Pays leastItem input := by
  refine .read (.count _ _) fun n rest hcount => ?_
  refine .tell ?_ (Nat.le_add_right _ _) ?_
  · have room := backed_of_count hcount
    rwa [Nat.mul_comm] at room
  · exact (Pays.each (scriptItem_pays hitem h n) 0 n rest).andThen fun _ _ =>
      .tell trivial (Nat.le_refl _) .done

/-- **Whatever a geometry tells is backed and paid for**: its header pays for its start. -/
theorem script_pays (level : Nat) (outer : Option Int32) (expected : Option Kind)
    (input : Input) : (script level outer expected).Pays 0 input := by
  induction level generalizing outer expected input with
  | zero => exact .fail fun _ => trivial
  | succ level ih =>
    refine .read (Header.readItem_takes outer expected) fun h rest _ => ?_
    rw [Nat.zero_add]
    cases h.kind with
    | point => exact scriptPoint_pays h rest
    | lineString => exact scriptLineString_pays h rest
    | polygon => exact scriptPolygon_pays h rest
    | collection c => exact scriptCollection_pays (ih _ _) h c rest

/-! ### Whole inputs -/

variable {σ : Type u} {t : Target σ}

/-- Whole inputs, accepted or not, are what their script makes of them. -/
theorem parse_eq_script (flat : t.IsFlat) (bytes : List UInt8) (x : σ) :
    parse t bytes x =
      ((script Tree.room none none).result (.ofBytes bytes) >>= fun rest =>
          if rest.remaining = 0 then pure () else throw (.trailing rest.remaining),
        t.tellAll ((calls bytes).map Call.event) x) := by
  unfold parse
  rw [walk_eq_run flat, run_eq]
  rfl

/-- **Work and announced sizes are bounded by the input**, accepted or not.  What a target is told
are the events of the calls, if it separates no items.  16 bytes for every coordinate, 5 for the
start of every geometry and 4 for every inner ring are no more than there are.  Whenever a number of
elements is announced, so many are backed by bytes that are not read yet.  The reader never stands
outside the input: neither when an event is told, nor where a fault says that it stands. -/
theorem parse_within_input (flat : t.IsFlat) (bytes : List UInt8) (x : σ) :
    (parse t bytes x).2 = t.tellAll ((calls bytes).map Call.event) x ∧
      16 * ((calls bytes).map Call.event).countP Event.isCoordinate +
          5 * ((calls bytes).map Call.event).countP Event.isStart +
          4 * ((calls bytes).map Call.event).countP Event.isInnerRing ≤ bytes.length ∧
      (∀ call ∈ calls bytes, call.Backed ∧ call.input ∈ stops bytes) ∧
      (∀ input ∈ stops bytes, input.offset ≤ bytes.length ∧
        input.rest = bytes.drop input.offset) ∧
      ∀ fault, (parse t bytes x).1 = .error fault → fault.Within bytes.length := by
  have pays := script_pays Tree.room none none (.ofBytes bytes)
  have total : (Input.ofBytes bytes).total = bytes.length := Nat.zero_add _
  rw [parse_eq_script flat]
  refine ⟨rfl, ?_, fun call hcall => ⟨pays.backed call hcall, input_mem_stops hcall⟩,
    fun input hinput => (pays.onward input hinput).ofBytes, fun fault herror => ?_⟩
  · rw [← Event.sum_price, List.map_map]
    show (script Tree.room none none).price (.ofBytes bytes) ≤ bytes.length
    cases hresult : (script Tree.room none none).result (.ofBytes bytes) with
    | ok rest =>
      have paid := (pays.ok rest hresult).2
      rw [Nat.zero_add] at paid
      exact Nat.le_trans (Nat.le_add_right _ _) paid
    | error fault =>
      have paid := (pays.error fault hresult).2
      rwa [Nat.zero_add] at paid
  · cases hresult : (script Tree.room none none).result (.ofBytes bytes) with
    | ok rest =>
      rw [hresult] at herror
      -- only what follows the geometry can be wrong with it
      have trailing : fault = .trailing rest.remaining := by
        change (if rest.remaining = 0 then _ else _) = _ at herror
        split at herror <;> cases herror
        rfl
      rw [trailing]
      show rest.remaining ≤ bytes.length
      rw [← total, ← (pays.ok rest hresult).1.total]
      exact Nat.le_add_left _ _
    | error fault' =>
      rw [hresult] at herror
      cases herror
      rw [← total]
      exact (pays.error fault hresult).1

/-- A polygon whose outer ring has one coordinate, and whose inner ring announces as many as a count
can say. -/
def overdrawn : List UInt8 :=
  Form.plain.header .polygon ++ Form.plain.word 2 ++
    Form.plain.path [⟨.zero, .zero, .nan, .nan⟩] ++ Form.plain.word 0xffffffff

theorem parse_within_input_overdrawn :
    Recorder.flat.IsFlat ∧ overdrawn.length = 33 ∧
      (parse Recorder.flat overdrawn (.start ())).1 = .error (.count 0xffffffff 0) ∧
      (DecodeFault.count 0xffffffff 0).Within overdrawn.length ∧
      (calls overdrawn).map Call.event =
        [.polygon 0 1 1, .coordinate ⟨.zero, .zero, .nan, .nan⟩ 0 1] ∧
      (calls overdrawn).map (fun call => call.input.offset) = [13, 29] ∧
      (∀ call ∈ calls overdrawn, call.Backed) ∧
      16 * ((calls overdrawn).map Call.event).countP Event.isCoordinate +
          5 * ((calls overdrawn).map Call.event).countP Event.isStart +
          4 * ((calls overdrawn).map Call.event).countP Event.isInnerRing ≤ overdrawn.length := by
  have flat : Recorder.flat.IsFlat := fun _ _ _ => rfl
  have refused : (parse Recorder.flat overdrawn (.start ())).1 = .error (.count 0xffffffff 0) := rfl
  obtain ⟨-, work, announced, -, faults⟩ := parse_within_input flat overdrawn (.start ())
  exact ⟨flat, rfl, refused, faults _ refused, rfl, rfl, fun call h => (announced call h).1, work⟩

end Geometry

end GeometryIndex

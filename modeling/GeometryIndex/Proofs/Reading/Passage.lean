import GeometryIndex.Geometry.Tree.Basic

/-!
# Reading — what a reader passes over

`Input.Passes input front rest` says that `input` begins with `front` and goes on as `rest`.  It
composes along concatenation (`Input.passes_append`), so a reader of several parts passes over the
parts in turn.

* `Read.bytes_eq_ok_iff`, `Read.byteOrder_eq_ok_iff`, `Read.word_eq_ok_iff`,
  `Read.double_eq_ok_iff`: a reader succeeds exactly when the input begins with the binary form of
  what it answers.
* `Read.count_eq_ok_iff`: so does the reader of a count, provided that what follows has room for so
  many elements of the least size.

Each is an equivalence: read from right to left it says that what was written is read back, and
from left to right that nothing else is.
-/

namespace GeometryIndex

/-- `input` begins with `front`, and `rest` is what follows. -/
def Input.Passes (input : Input) (front : List UInt8) (rest : Input) : Prop :=
  input.rest = front ++ rest.rest ∧ rest.offset = input.offset + front.length

namespace Input

theorem passes_nil {input rest : Input} : input.Passes [] rest ↔ rest = input := by
  obtain ⟨offset, bytes⟩ := input
  obtain ⟨offset', bytes'⟩ := rest
  simp [Passes, and_comm, eq_comm]

/-- To pass over two parts is to pass over the first, and then over the second. -/
theorem passes_append {input rest : Input} {front back : List UInt8} :
    input.Passes (front ++ back) rest ↔
      ∃ mid : Input, input.Passes front mid ∧ mid.Passes back rest := by
  constructor
  · rintro ⟨hrest, hoffset⟩
    refine ⟨⟨input.offset + front.length, back ++ rest.rest⟩, ⟨?_, rfl⟩, rfl, ?_⟩
    · rw [hrest, List.append_assoc]
    · rw [hoffset, List.length_append, Nat.add_assoc]
  · rintro ⟨mid, ⟨h₁, o₁⟩, ⟨h₂, o₂⟩⟩
    refine ⟨?_, ?_⟩
    · rw [h₁, h₂, List.append_assoc]
    · rw [o₂, o₁, List.length_append, Nat.add_assoc]

theorem passes_cons {input rest : Input} {b : UInt8} {back : List UInt8} :
    input.Passes (b :: back) rest ↔
      ∃ mid : Input, input.Passes [b] mid ∧ mid.Passes back rest := by
  rw [← List.singleton_append, passes_append]

/-- What is passed over was there to be read. -/
theorem Passes.length_le {input rest : Input} {front : List UInt8} (h : input.Passes front rest) :
    front.length ≤ input.remaining := by
  rw [remaining, h.1, List.length_append]
  exact Nat.le_add_right _ _

end Input

namespace Read

variable {α β : Type} {input rest : Input}

/-! ### Putting readers together -/

theorem bind_eq_ok_iff {first : Read α} {second : α → Read β} {b : β} :
    (first >>= second) input = .ok (b, rest) ↔
      ∃ a mid, first input = .ok (a, mid) ∧ second a mid = .ok (b, rest) := by
  change (first input >>= fun p => second p.1 p.2) = .ok (b, rest) ↔ _
  cases first input with
  | error fault => simp [bind, Except.bind]
  | ok p =>
    obtain ⟨a, mid⟩ := p
    simp [bind, Except.bind, and_assoc]

theorem pure_eq_ok_iff {a b : α} :
    (pure a : Read α) input = .ok (b, rest) ↔ b = a ∧ rest = input := by
  change Except.ok (a, input) = .ok (b, rest) ↔ _
  simp [eq_comm]

theorem fail_eq_ok_iff {fault : DecodeFault} {a : α} :
    (fail fault : Read α) input = .ok (a, rest) ↔ False := by
  simp [fail]

/-! ### The single readers -/

theorem bytes_eq_ok_iff {n : Nat} {front : List UInt8} :
    bytes n input = .ok (front, rest) ↔ front.length = n ∧ input.Passes front rest := by
  unfold bytes
  cases h : splitFront? n input.rest with
  | none =>
    simp only [reduceCtorEq, false_iff, not_and]
    rintro hn ⟨hrest, -⟩
    rw [splitFront?_eq_some_iff.2 ⟨hrest, hn⟩] at h
    cases h
  | some p =>
    obtain ⟨front', rest'⟩ := p
    obtain ⟨hsplit, hlength⟩ := splitFront?_eq_some_iff.1 h
    simp only [Except.ok.injEq, Prod.mk.injEq]
    constructor
    · rintro ⟨rfl, rfl⟩
      exact ⟨hlength, hsplit, by rw [hlength]⟩
    · rintro ⟨hn, hrest, hoffset⟩
      have same : front' = front ∧ rest' = rest.rest :=
        List.append_inj (hsplit.symm.trans hrest) (hlength.trans hn.symm)
      obtain ⟨rfl, rfl⟩ := same
      rw [hn] at hoffset
      exact ⟨rfl, by rw [← hoffset]⟩

/-- A byte is written as itself. -/
theorem decode_singleton (b : UInt8) : UInt8.ofNat (ByteOrder.big.decode [b]) = b := by
  simp [ByteOrder.decode, Bytes.toNat]

theorem ofMark?_eq_some_iff {b : UInt8} {order : ByteOrder} :
    ByteOrder.ofMark? b = some order ↔ b = order.mark := by
  constructor
  · intro h
    unfold ByteOrder.ofMark? at h
    split at h
    · next hb => cases h; exact hb
    · split at h
      · next hb => cases h; exact hb
      · cases h
  · rintro rfl
    exact ByteOrder.ofMark?_mark order

theorem byteOrder_eq_ok_iff {order : ByteOrder} :
    byteOrder input = .ok (order, rest) ↔ input.Passes [order.mark] rest := by
  unfold byteOrder
  simp only [bind_eq_ok_iff, bytes_eq_ok_iff]
  constructor
  · rintro ⟨front, mid, ⟨hlength, hpass⟩, h⟩
    obtain ⟨b, rfl⟩ := List.length_eq_one_iff.1 hlength
    rw [decode_singleton] at h
    cases hmark : ByteOrder.ofMark? b with
    | none => rw [hmark] at h; exact (fail_eq_ok_iff.1 h).elim
    | some order' =>
      rw [hmark] at h
      obtain ⟨rfl, rfl⟩ := pure_eq_ok_iff.1 h
      rwa [← ofMark?_eq_some_iff.1 hmark]
  · intro hpass
    refine ⟨[order.mark], rest, ⟨rfl, hpass⟩, ?_⟩
    rw [decode_singleton, ByteOrder.ofMark?_mark]
    exact pure_eq_ok_iff.2 ⟨rfl, rfl⟩

/-- A natural is read from the `width` bytes that write it. -/
theorem decode_bytes_iff {order : ByteOrder} {width n : Nat} :
    (∃ front, (front.length = width ∧ input.Passes front rest) ∧ n = order.decode front) ↔
      n < Nat.pow 256 width ∧ input.Passes (order.encode width n) rest := by
  constructor
  · rintro ⟨front, ⟨hlength, hpass⟩, rfl⟩
    rw [ByteOrder.encode_decode order hlength, ← hlength]
    exact ⟨order.decode_lt front, hpass⟩
  · rintro ⟨hn, hpass⟩
    refine ⟨order.encode width n, ⟨order.length_encode width n, hpass⟩, ?_⟩
    rw [ByteOrder.decode_encode, Nat.mod_eq_of_lt hn]

theorem word_eq_ok_iff {order : ByteOrder} {n : Nat} :
    word order input = .ok (n, rest) ↔
      n < UInt32.size ∧ input.Passes (order.encode 4 n) rest := by
  rw [show UInt32.size = Nat.pow 256 4 from rfl, ← decode_bytes_iff]
  unfold word
  simp only [bind_eq_ok_iff, bytes_eq_ok_iff, pure_eq_ok_iff]
  constructor
  · rintro ⟨front, mid, h, rfl, rfl⟩
    exact ⟨front, h, rfl⟩
  · rintro ⟨front, h, rfl⟩
    exact ⟨front, rest, h, rfl, rfl⟩

theorem double_eq_ok_iff {order : ByteOrder} {x : Double} :
    double order input = .ok (x, rest) ↔ input.Passes (order.encode 8 x.toBits) rest := by
  have bits : ∀ n, n < Nat.pow 256 8 → (Binary.ofBits n : Double).toBits = n := fun n hn => by
    simpa [Binary.ofBits, Binary.toBits, Format.width, Format.double] using hn
  unfold double
  simp only [bind_eq_ok_iff, bytes_eq_ok_iff, pure_eq_ok_iff]
  constructor
  · rintro ⟨front, mid, ⟨hlength, hpass⟩, rfl, rfl⟩
    have hlt := order.decode_lt front
    rw [hlength] at hlt
    rwa [bits _ hlt, ByteOrder.encode_decode order hlength]
  · intro hpass
    refine ⟨_, rest, ⟨order.length_encode 8 x.toBits, hpass⟩, ?_, rfl⟩
    have hlt : x.toBits < Nat.pow 256 8 := x.bits.isLt
    rw [ByteOrder.decode_encode, Nat.mod_eq_of_lt hlt]
    simp [Binary.ofBits, Binary.toBits]

/-- A count is a word that is checked against what is left after it. -/
theorem count_apply (order : ByteOrder) (size : Nat) (input : Input) :
    count order size input = (word order input >>= fun p =>
      if p.2.remaining / size < p.1 then .error (.count p.1 p.2.remaining) else .ok p) := by
  show (word order input >>= fun p => _) = _
  congr 1
  funext p
  show (if _ then _ else _ : Read Nat) p.2 = _
  split <;> rfl

theorem count_eq_ok_iff {order : ByteOrder} {size n : Nat} :
    count order size input = .ok (n, rest) ↔
      n < UInt32.size ∧ n ≤ rest.remaining / size ∧ input.Passes (order.encode 4 n) rest := by
  have left : ∀ mid : Input, (get : Read Input) mid = .ok (mid, mid) := fun _ => rfl
  unfold count
  simp only [bind_eq_ok_iff, word_eq_ok_iff]
  constructor
  · rintro ⟨n', mid, ⟨hn, hpass⟩, input', mid', hget, h⟩
    rw [left] at hget
    cases hget
    split at h
    · exact (fail_eq_ok_iff.1 h).elim
    · next hroom =>
      obtain ⟨rfl, rfl⟩ := pure_eq_ok_iff.1 h
      exact ⟨hn, Nat.le_of_not_lt hroom, hpass⟩
  · rintro ⟨hn, hroom, hpass⟩
    refine ⟨n, rest, ⟨hn, hpass⟩, rest, rest, left rest, ?_⟩
    rw [if_neg (Nat.not_lt_of_le hroom)]
    exact pure_eq_ok_iff.2 ⟨rfl, rfl⟩

end Read

end GeometryIndex

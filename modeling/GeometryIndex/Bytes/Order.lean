/-!
# Naturals as bytes

A natural of known width is written with its most or its least significant byte first.
`ByteOrder.decode_encode`: reading gives back what was written, modulo the width.
`ByteOrder.encode_decode`: writing gives back what was read.
-/

namespace GeometryIndex

/-- The byte order of one geometry. -/
inductive ByteOrder
  | big
  | little
  deriving DecidableEq, Repr

namespace Bytes

/-- The natural whose bytes are given, most significant first. -/
def toNat (bytes : List UInt8) : Nat := bytes.foldl (fun n b => n * 256 + b.toNat) 0

/-- The last `width` bytes of a natural, most significant first. -/
def ofNat : (width : Nat) → Nat → List UInt8
  | 0, _ => []
  | width + 1, n => ofNat width (n / 256) ++ [UInt8.ofNat n]

theorem toNat_append_singleton (bytes : List UInt8) (b : UInt8) :
    toNat (bytes ++ [b]) = toNat bytes * 256 + b.toNat := by
  simp [toNat, List.foldl_append]

@[simp] theorem length_ofNat (width n : Nat) : (ofNat width n).length = width := by
  induction width generalizing n with
  | zero => rfl
  | succ width ih => simp [ofNat, ih]

theorem toNat_ofNat (width n : Nat) : toNat (ofNat width n) = n % Nat.pow 256 width := by
  induction width generalizing n with
  | zero => simp [ofNat, toNat, Nat.mod_one]
  | succ width ih =>
    have power : Nat.pow 256 (width + 1) = 256 * Nat.pow 256 width := Nat.mul_comm _ _
    rw [ofNat, toNat_append_singleton, ih, power, Nat.mod_mul, UInt8.toNat_ofNat']
    omega

theorem toNat_lt (bytes : List UInt8) : toNat bytes < Nat.pow 256 bytes.length := by
  -- the fold is bounded from any start, since a byte fills up the step it makes
  suffices h : ∀ n, bytes.foldl (fun n b => n * 256 + b.toNat) n <
      (n + 1) * Nat.pow 256 bytes.length by
    simpa [toNat] using h 0
  induction bytes with
  | nil => simp
  | cons b bytes ih =>
    intro n
    have power : Nat.pow 256 (bytes.length + 1) = 256 * Nat.pow 256 bytes.length :=
      Nat.mul_comm _ _
    have low : b.toNat < 256 := b.toNat_lt
    have carry : n * 256 + b.toNat + 1 ≤ (n + 1) * 256 := by omega
    rw [List.foldl_cons, List.length_cons, power, ← Nat.mul_assoc]
    exact Nat.lt_of_lt_of_le (ih _) (Nat.mul_le_mul_right _ carry)

theorem ofNat_toNat {width : Nat} {bytes : List UInt8} (h : bytes.length = width) :
    ofNat width (toNat bytes) = bytes := by
  induction width generalizing bytes with
  | zero => rw [List.length_eq_zero_iff.1 h]; rfl
  | succ width ih =>
    have hne : bytes ≠ [] := fun e => by simp [e] at h
    obtain ⟨front, b, rfl⟩ : ∃ front b, bytes = front ++ [b] :=
      ⟨_, _, (List.dropLast_concat_getLast hne).symm⟩
    have hfront : front.length = width := by simpa using h
    have low : b.toNat < 256 := b.toNat_lt
    rw [toNat_append_singleton, ofNat,
      show (toNat front * 256 + b.toNat) / 256 = toNat front by omega, ih hfront]
    congr 2
    apply UInt8.toNat.inj
    rw [UInt8.toNat_ofNat']
    omega

end Bytes

namespace ByteOrder

/-- The byte that announces an order. -/
def mark : ByteOrder → UInt8
  | .big => 0
  | .little => 1

def ofMark? (b : UInt8) : Option ByteOrder :=
  if b = 0 then some .big else if b = 1 then some .little else none

def decode (order : ByteOrder) (bytes : List UInt8) : Nat :=
  match order with
  | .big => Bytes.toNat bytes
  | .little => Bytes.toNat bytes.reverse

def encode (order : ByteOrder) (width n : Nat) : List UInt8 :=
  match order with
  | .big => Bytes.ofNat width n
  | .little => (Bytes.ofNat width n).reverse

@[simp] theorem ofMark?_mark (order : ByteOrder) : ofMark? order.mark = some order := by
  cases order <;> rfl

@[simp] theorem length_encode (order : ByteOrder) (width n : Nat) :
    (order.encode width n).length = width := by
  cases order <;> simp [encode]

theorem decode_encode (order : ByteOrder) (width n : Nat) :
    order.decode (order.encode width n) = n % Nat.pow 256 width := by
  cases order <;> simp [encode, decode, Bytes.toNat_ofNat]

theorem encode_decode (order : ByteOrder) {width : Nat} {bytes : List UInt8}
    (h : bytes.length = width) : order.encode width (order.decode bytes) = bytes := by
  cases order with
  | big => exact Bytes.ofNat_toNat h
  | little => rw [encode, decode, Bytes.ofNat_toNat (by simpa using h), List.reverse_reverse]

theorem decode_lt (order : ByteOrder) (bytes : List UInt8) :
    order.decode bytes < Nat.pow 256 bytes.length := by
  cases order with
  | big => exact Bytes.toNat_lt bytes
  | little => simpa [decode] using Bytes.toNat_lt bytes.reverse

end ByteOrder

end GeometryIndex

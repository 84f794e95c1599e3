import GeometryIndex.Bytes.Order
import GeometryIndex.Error

/-!
# Reading from the front of the input

An input is what is left to read, and how many bytes were read before it.  A reader takes what it
needs from the front, or fails and says what it needed, where, and how much there was.
-/

namespace GeometryIndex

/-- The first `n` elements and the rest, if there are so many. -/
def splitFront? {α : Type} : Nat → List α → Option (List α × List α)
  | 0, xs => some ([], xs)
  | _ + 1, [] => none
  | n + 1, x :: xs => (splitFront? n xs).map fun (front, rest) => (x :: front, rest)

theorem splitFront?_eq_some_iff {α : Type} {n : Nat} {xs front rest : List α} :
    splitFront? n xs = some (front, rest) ↔ xs = front ++ rest ∧ front.length = n := by
  induction n generalizing xs front with
  | zero => cases front <;> simp [splitFront?, eq_comm]
  | succ n ih =>
    cases xs with
    | nil => cases front <;> simp [splitFront?]
    | cons x xs =>
      cases front with
      | nil => simp [splitFront?]
      | cons y front =>
        simp only [splitFront?, Option.map_eq_some_iff, Prod.mk.injEq, List.cons.injEq,
          List.cons_append, List.length_cons, Nat.add_right_cancel_iff]
        constructor
        · rintro ⟨⟨front', rest'⟩, h, ⟨rfl, rfl⟩, rfl⟩
          exact ⟨⟨rfl, (ih.1 h).1⟩, (ih.1 h).2⟩
        · rintro ⟨⟨rfl, h⟩, hn⟩
          exact ⟨(front, rest), ih.2 ⟨h, hn⟩, ⟨rfl, rfl⟩, rfl⟩

/-- What is left to read, after `offset` bytes. -/
structure Input where
  offset : Nat
  rest : List UInt8
  deriving DecidableEq, Repr

/-- A reader of the front of the input. -/
abbrev Read (α : Type) : Type := StateT Input (Except DecodeFault) α

namespace Input

/-- An input of which nothing was read. -/
def ofBytes (bytes : List UInt8) : Input := ⟨0, bytes⟩

def remaining (input : Input) : Nat := input.rest.length

end Input

namespace Read

/-- The next `n` bytes. -/
def bytes (n : Nat) : Read (List UInt8) := fun input =>
  match splitFront? n input.rest with
  | some (front, rest) => .ok (front, ⟨input.offset + n, rest⟩)
  | none => .error (.truncated n input.offset input.remaining)

def fail {α : Type} (fault : DecodeFault) : Read α := fun _ => .error fault

/-- The byte order that a geometry begins with. -/
def byteOrder : Read ByteOrder := do
  let mark := UInt8.ofNat (ByteOrder.big.decode (← bytes 1))
  match ByteOrder.ofMark? mark with
  | some order => pure order
  | none => fail (.byteOrder mark)

/-- A natural of 32 bits. -/
def word (order : ByteOrder) : Read Nat := do
  return order.decode (← bytes 4)

/-- A double, any bit pattern. -/
def double (order : ByteOrder) : Read Double := do
  return .ofBits (order.decode (← bytes 8))

/-- A number of elements of at least `size` bytes each, which what is left has room for. -/
def count (order : ByteOrder) (size : Nat) : Read Nat := do
  let n ← word order
  let left := (← get).remaining
  if left / size < n then fail (.count n left) else pure n

end Read

end GeometryIndex

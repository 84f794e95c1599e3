import GeometryIndex.Key

/-!
# Multisets of keys

The content of a map: each key once, in ascending order, with the number of its occurrences, and the
number of all occurrences beside it.  Both numbers are words of fixed width and wrap around.
-/

namespace GeometryIndex

structure Entries where
  counts : List (Key × UInt32)
  size : UInt64
  deriving DecidableEq, Repr

namespace Entries

def empty : Entries := ⟨[], 0⟩

/-- One more occurrence of a key in its place. -/
def insertCount (key : Key) : List (Key × UInt32) → List (Key × UInt32)
  | [] => [(key, 1)]
  | (k, n) :: rest =>
    match key.order k with
    | .lt => (key, 1) :: (k, n) :: rest
    | .eq => (k, n + 1) :: rest
    | .gt => (k, n) :: insertCount key rest

/-- One occurrence less of a key that is there; the last one takes the key along. -/
def eraseCount? (key : Key) : List (Key × UInt32) → Option (List (Key × UInt32))
  | [] => none
  | (k, n) :: rest =>
    match key.order k with
    | .lt => none
    | .eq => some (if n - 1 = 0 then rest else (k, n - 1) :: rest)
    | .gt => (eraseCount? key rest).map ((k, n) :: ·)

def insert (key : Key) (e : Entries) : Entries := ⟨insertCount key e.counts, e.size + 1⟩

/-- Without one occurrence of a key, if it has one. -/
def erase? (key : Key) (e : Entries) : Option Entries :=
  (eraseCount? key e.counts).map fun counts => ⟨counts, e.size - 1⟩

/-- All occurrences of the keys that pass, in ascending order. -/
def select (pass : Key → Bool) (e : Entries) : List Key :=
  e.counts.flatMap fun (key, n) => if pass key then List.replicate n.toNat key else []

/-- All occurrences of all keys, in ascending order. -/
def toList (e : Entries) : List Key := e.select fun _ => true

end Entries

end GeometryIndex

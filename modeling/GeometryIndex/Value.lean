import GeometryIndex.Box.Compact
import GeometryIndex.Geometry.Metadata

/-!
# Values and rows

A geometry value keeps its bytes together with what was found in them when it was made.  Binary
values become geometries on demand; no other type does, but an absent value is an absent geometry.
-/

namespace GeometryIndex

/-- The bytes of a geometry and what is known of them. -/
structure GeometryValue where
  bytes : List UInt8
  srid : Int32
  envelope : Option Envelope
  dimensions : Dimensions
  deriving DecidableEq, Repr

namespace GeometryValue

/-- Looks through the bytes once for the metadata, and once more at the header for the SRID. -/
def ofBytes (bytes : List UInt8) : Except DecodeFault GeometryValue := do
  let (envelope, dimensions) ← Geometry.metadata bytes
  let srid ← Geometry.srid bytes
  return { bytes, srid, envelope, dimensions }

/-- The compact form of an envelope.  The envelope itself is kept as it is. -/
def ofEnvelope (e : Envelope) : GeometryValue := ⟨e.compact, 0, some e, .xy⟩

def isEmpty (g : GeometryValue) : Bool := g.envelope.isNone

/-- The same bytes, and envelopes that are the same as numbers. -/
def equals (a b : GeometryValue) : Bool :=
  decide (a.bytes = b.bytes) && decide (a.srid = b.srid) && decide (a.dimensions = b.dimensions) &&
    match a.envelope, b.envelope with
    | none, none => true
    | some e, some e' => e.equals e'
    | _, _ => false

end GeometryValue

inductive Value
  | null
  | int (n : Int64)
  | double (x : Double)
  | varchar (text : String)
  | binary (bytes : List UInt8)
  | geometry (g : GeometryValue)
  deriving DecidableEq, Repr

namespace Value

def type : Value → ValueType
  | .null => .null
  | .int _ => .int
  | .double _ => .double
  | .varchar _ => .varchar
  | .binary _ => .binary
  | .geometry _ => .geometry

def isNull (v : Value) : Bool := decide (v = .null)

/-- Equality of values: doubles compare as numbers, so that a NaN is not even equal to itself. -/
def equals : Value → Value → Bool
  | .null, .null => true
  | .int a, .int b => decide (a = b)
  | .double a, .double b => a.equals b
  | .varchar a, .varchar b => decide (a = b)
  | .binary a, .binary b => decide (a = b)
  | .geometry a, .geometry b => a.equals b
  | _, _ => false

/-- The value as a geometry. -/
def geometry? : Value → Except DecodeFault (Option GeometryValue)
  | .null => .ok none
  | .geometry g => .ok (some g)
  | .binary bytes => some <$> GeometryValue.ofBytes bytes
  | v => .error (.valueType v.type)

/-- The envelope of the value as a geometry.  Bytes are walked over for their envelope only. -/
def envelope? : Value → Except DecodeFault (Option Envelope)
  | .null => .ok none
  | .geometry g => .ok g.envelope
  | .binary bytes => Geometry.envelope bytes
  | v => .error (.valueType v.type)

end Value

/-- A row of a table: its id and the values of its columns in order. -/
structure Row where
  id : Int64
  values : List Value
  deriving DecidableEq, Repr

/-- The value at a position; a row that is too short has nulls there. -/
def Row.value (row : Row) (position : Nat) : Value := row.values.getD position .null

end GeometryIndex

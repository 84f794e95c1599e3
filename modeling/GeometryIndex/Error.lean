import GeometryIndex.Column
import GeometryIndex.Geometry.Kind
import GeometryIndex.Number.Layout

/-!
# Causes of failure

An error is its cause.  Its kind, and the wording of each cause, are read off it here and nowhere
else: the message is the heading of the kind followed by the detail.
-/

namespace GeometryIndex

/-- What makes a declaration of an index unacceptable. -/
inductive DeclarationFault
  | unique
  | reopenedEphemeral
  | noColumn
  | manyColumns
  | descending
  | nullsFirst
  | nullsLast
  | notGeometry (column : Column)
  | negativeId (id : Int32)
  deriving DecidableEq, Repr

/-- What is closed. -/
inductive Closed
  | store
  | map (name : String)
  | index (name : String)
  deriving DecidableEq, Repr

/-- What makes bytes, bounds or a value unusable as a geometry. -/
inductive DecodeFault
  | byteOrder (mark : UInt8)
  | typeCode (code : Nat)
  | srid (found parent : Int32)
  | itemKind (found expected : Kind)
  | truncated (need offset left : Nat)
  | count (elements left : Nat)
  | nesting
  | trailing (left : Nat)
  | bounds (minX maxX minY maxY : Double)
  | valueType (type : ValueType)
  deriving DecidableEq, Repr

/-- How an index and its table, or a cursor and its rows, disagree. -/
inductive IntegrityFault
  | missingRow (row : Int64) (index : String)
  | unpositioned (table : String)
  deriving DecidableEq, Repr

inductive ErrorKind
  | config
  | closed
  | integrity
  | decode
  | rowNotFound
  | internal
  deriving DecidableEq, Repr

inductive Error
  | config (fault : DeclarationFault)
  | closed (what : Closed)
  | integrity (fault : IntegrityFault)
  | decode (fault : DecodeFault)
  | rowNotFound (row : Int64)
  | noStore
  /-- An error that a collaborator reports in its own words. -/
  | reported (kind : ErrorKind) (text : String)
  deriving DecidableEq, Repr

namespace DeclarationFault

def message : DeclarationFault → String
  | .unique => "not unique"
  | .reopenedEphemeral => "non persistent index called with create == false"
  | .noColumn => "spatial index without column"
  | .manyColumns => "can only do one column"
  | .descending => "cannot do descending"
  | .nullsFirst => "cannot do nulls first"
  | .nullsLast => "cannot do nulls last"
  | .notGeometry column => "spatial index on non-geometry column, " ++ column.sql
  | .negativeId id => s!"persistent index with id {id} < 0"

end DeclarationFault

namespace Closed

def message : Closed → String
  | .store => "spatial store is closed"
  | .map name => s!"spatial map {name} is closed"
  | .index name => s!"spatial index {name} is closed"

end Closed

namespace DecodeFault

def message : DecodeFault → String
  | .byteOrder mark => s!"invalid WKB byte order: {mark}"
  | .typeCode code => s!"unknown geometry type code: {code}"
  | .srid found parent => s!"inconsistent SRID {found} inside geometry with SRID {parent}"
  | .itemKind found expected => s!"{found.name} item inside a collection of {expected.name}"
  | .truncated need offset left =>
    s!"truncated geometry: need {need} bytes at offset {offset}, have {left}"
  | .count elements left => s!"element count {elements} exceeds remaining {left} bytes"
  | .nesting => "geometry nesting too deep"
  | .trailing left => s!"{left} trailing bytes after geometry"
  | .bounds minX maxX minY maxY =>
    let text (x : Double) : String := Layout.message.write x
    s!"invalid envelope bounds: x {text minX}..{text maxX}, y {text minY}..{text maxY}"
  | .valueType type => s!"{type.name} value cannot be converted to GEOMETRY"

end DecodeFault

namespace IntegrityFault

def message : IntegrityFault → String
  | .missingRow row index => s!"row {row} not found in spatial index {index}"
  | .unpositioned table => s!"cursor on {table} is not positioned on a row"

end IntegrityFault

/-- What a message of this kind begins with. -/
def ErrorKind.heading : ErrorKind → String
  | .config => "Configuration error"
  | .closed => "Resource closed"
  | .integrity => "Integrity error"
  | .decode => "Geometry decode error"
  | .rowNotFound => "Row not found"
  | .internal => "Internal error"

namespace Error

def kind : Error → ErrorKind
  | .config _ => .config
  | .closed _ => .closed
  | .integrity _ => .integrity
  | .decode _ => .decode
  | .rowNotFound _ => .rowNotFound
  | .noStore => .internal
  | .reported kind _ => kind

def detail : Error → String
  | .config fault => fault.message
  | .closed what => what.message
  | .integrity fault => fault.message
  | .decode fault => fault.message
  | .rowNotFound row => s!"{row}"
  | .noStore => "no store"
  | .reported _ text => text

def message (e : Error) : String := e.kind.heading ++ ": " ++ e.detail

end Error

end GeometryIndex

/-!
# Record kinds

Six record type codes have a meaning. A decoder may accept other codes as well; a record with such
a code is checked like any other and then has no effect.
-/

namespace IntelHex

/-- What a record with a known type code carries. -/
inductive Kind
  /-- Bytes to be placed at an address. -/
  | data
  /-- The mark of the end of the file. -/
  | endOfFile
  /-- The upper part of the segmented addresses that follow. -/
  | extendedSegmentAddress
  /-- The segmented address where execution starts. -/
  | startSegmentAddress
  /-- The upper half of the linear addresses that follow. -/
  | extendedLinearAddress
  /-- The linear address where execution starts. -/
  | startLinearAddress
deriving DecidableEq, Repr

namespace Kind

/-- All kinds, in the order of their type codes. -/
def all : List Kind :=
  [data, endOfFile, extendedSegmentAddress, startSegmentAddress, extendedLinearAddress,
    startLinearAddress]

/-- The type code of a kind. -/
def code : Kind → Nat
  | data => 0
  | endOfFile => 1
  | extendedSegmentAddress => 2
  | startSegmentAddress => 3
  | extendedLinearAddress => 4
  | startLinearAddress => 5

/-- The kind with a given type code. -/
def ofCode? (code : Int) : Option Kind :=
  all.find? fun kind => (kind.code : Int) = code

/-- The name under which a kind is reported. -/
def name : Kind → String
  | data => "DATA"
  | endOfFile => "END_OF_FILE"
  | extendedSegmentAddress => "EXTENDED_SEGMENT_ADDRESS"
  | startSegmentAddress => "START_SEGMENT_ADDRESS"
  | extendedLinearAddress => "EXTENDED_LINEAR_ADDRESS"
  | startLinearAddress => "START_LINEAR_ADDRESS"

/-- Data records are delivered. -/
def isData : Kind → Bool
  | data => true
  | _ => false

/-- The end of the file changes nothing: records may follow it. -/
def isEndOfFile : Kind → Bool
  | endOfFile => true
  | _ => false

/-- Start addresses are accepted and have no effect. -/
def isStart : Kind → Bool
  | startSegmentAddress | startLinearAddress => true
  | _ => false

/-- Extended addresses set the addressing of the records that follow. -/
def isExtension : Kind → Bool
  | extendedSegmentAddress | extendedLinearAddress => true
  | _ => false

/-- A code that is no kind's is reported by its value. -/
structure UnknownCode where
  code : Int
deriving DecidableEq, Repr

/-- The wording of an unknown type code. -/
def UnknownCode.message (e : UnknownCode) : String :=
  toString e.code ++ " is not a valid IhexTag"

/-- The kind with a given type code, or the reason why there is none. -/
def ofCode (code : Int) : Except UnknownCode Kind :=
  match ofCode? code with
  | some kind => .ok kind
  | none => .error ⟨code⟩

end Kind

end IntelHex

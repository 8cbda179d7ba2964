import RawProfile.LittleEndian

/-!
# Function records

The record that instrumentation leaves in memory for each function. Registration looks at two of
its fields, the offset of the counters and their number; a dump copies its 64 bytes as they are.
`encode` and `decode?` fix the place of every field.
-/

namespace RawProfile

/-- What a value profile can be about, in the order in which records count their sites. -/
inductive ValueKind where
  | indirectCallTarget
  | memOpSize
  deriving DecidableEq, Repr

namespace ValueKind

def index : ValueKind → Nat
  | .indirectCallTarget => 0
  | .memOpSize => 1

def last : ValueKind := .memOpSize

end ValueKind

/-- The record of one function. -/
structure FunctionRecord where
  nameRef : UInt64 := 0
  funcHash : UInt64 := 0
  /-- The distance from the record to its first counter, as an unsigned word. -/
  counterPtr : UInt64 := 0
  bitmapPtr : UInt64 := 0
  functionPtr : UInt64 := 0
  values : UInt64 := 0
  numCounters : UInt32 := 0
  indirectCallSites : UInt16 := 0
  memOpSites : UInt16 := 0
  numBitmapBytes : UInt32 := 0
  /-- Bytes that carry no meaning; zero in every record made here. -/
  reserved : UInt32 := 0
  deriving DecidableEq, Repr

namespace FunctionRecord

/-- The record of a function whose counters lie at a distance from it; the other fields are zero. -/
def ofOffset (nameRef funcHash : UInt64) (counterOffset : Int64) (numCounters : UInt32) :
    FunctionRecord :=
  { nameRef, funcHash, counterPtr := counterOffset.toUInt64, numCounters }

/-- The number of bytes in a record of the native width. -/
def byteCount : Nat := 64

def bytes (r : FunctionRecord) : List UInt8 :=
  wordBytes r.nameRef ++ wordBytes r.funcHash ++ wordBytes r.counterPtr ++
    wordBytes r.bitmapPtr ++ wordBytes r.functionPtr ++ wordBytes r.values ++
    littleEndian 4 r.numCounters.toNat ++ littleEndian 2 r.indirectCallSites.toNat ++
    littleEndian 2 r.memOpSites.toNat ++ littleEndian 4 r.numBitmapBytes.toNat ++
    littleEndian 4 r.reserved.toNat

def encode (r : FunctionRecord) : ByteArray := r.bytes.toByteArray

/-- The record that the bytes hold, each field read at its place; further bytes are not looked
at. -/
def ofBytes (bs : List UInt8) : FunctionRecord where
  nameRef := .ofNat (field 0 8)
  funcHash := .ofNat (field 8 8)
  counterPtr := .ofNat (field 16 8)
  bitmapPtr := .ofNat (field 24 8)
  functionPtr := .ofNat (field 32 8)
  values := .ofNat (field 40 8)
  numCounters := .ofNat (field 48 4)
  indirectCallSites := .ofNat (field 52 2)
  memOpSites := .ofNat (field 54 2)
  numBitmapBytes := .ofNat (field 56 4)
  reserved := .ofNat (field 60 4)
where
  field (offset n : Nat) : Nat := ofLittleEndian ((bs.drop offset).take n)

def decode? (bytes : ByteArray) : Option FunctionRecord :=
  if bytes.size = byteCount then some (ofBytes bytes.data.toList) else none

/-- The distance from the record to its first counter. -/
def counterOffset (r : FunctionRecord) : Int64 := r.counterPtr.toInt64

/-- A distance survives as an unsigned word, also a negative one. -/
@[simp] theorem counterOffset_ofOffset (nameRef funcHash : UInt64) (counterOffset : Int64)
    (numCounters : UInt32) :
    (ofOffset nameRef funcHash counterOffset numCounters).counterOffset = counterOffset :=
  counterOffset.toInt64_toUInt64

@[simp] theorem length_bytes (r : FunctionRecord) : r.bytes.length = byteCount := by
  simp [bytes, byteCount]

@[simp] theorem size_encode (r : FunctionRecord) : r.encode.size = byteCount := by
  simp [encode]

end FunctionRecord

end RawProfile

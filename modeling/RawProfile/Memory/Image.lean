import RawProfile.Memory.Sparse

/-!
# Memory images

Where the bytes behind the registered spans come from: sparse memory, or the memory of the running
process. Process memory is a byte for every address; a range is refused if it starts at zero or
reaches past the largest signed word, and otherwise the caller vouches for it.
-/

namespace RawProfile

/-- The memory of the running process. -/
structure ProcessMemory where
  byteAt : UInt64 → UInt8

namespace ProcessMemory

/-- The largest address at which a range may end. -/
def maxLimit : Nat := 0x7fffffffffffffff

/-- The bytes from `start` up to `start + length`. -/
def bytes (m : ProcessMemory) (start length : UInt64) : ByteArray :=
  ((List.range length.toNat).map fun i => m.byteAt (start + .ofNat i)).toByteArray

/-- The bytes from `start` up to `start + length`, unless the range cannot be one of memory. -/
def read (m : ProcessMemory) (start length : UInt64) : Option ByteArray :=
  if length = 0 then some .empty
  else if start = 0 ∨ maxLimit < start.toNat + length.toNat then none
  else some (m.bytes start length)

def recordAt (m : ProcessMemory) (address : UInt64) : FunctionRecord :=
  .ofBytes (m.bytes address (.ofNat FunctionRecord.byteCount)).data.toList

end ProcessMemory

/-- A source of the bytes behind addresses. -/
inductive MemoryImage where
  | sparse (memory : SparseMemory)
  | live (memory : ProcessMemory)

namespace MemoryImage

def read : MemoryImage → UInt64 → UInt64 → Option ByteArray
  | .sparse m => m.read
  | .live m => m.read

def at? : MemoryImage → Nat → Option UInt8
  | .sparse m, a => m.at? a
  | .live m, a => if a < UInt64.size then some (m.byteAt (.ofNat a)) else none

/-- The bytes are those of the running process, which has the native width. -/
def isLive : MemoryImage → Bool
  | .sparse _ => false
  | .live _ => true

end MemoryImage

end RawProfile

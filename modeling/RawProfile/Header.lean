import RawProfile.LittleEndian
import RawProfile.Width

/-!
# The file header

A profile file starts with fourteen words. The header gives them names, `encode` writes them out in
little-endian order, and `decode?` is its inverse on strings of 112 bytes.
-/

namespace RawProfile

/-- The words at the start of a profile file, in file order. -/
structure Header where
  magic : UInt64
  version : UInt64
  binaryIdsSize : UInt64
  numRecords : UInt64
  paddingBeforeCounters : UInt64
  numCounters : UInt64
  paddingAfterCounters : UInt64
  numBitmapBytes : UInt64
  paddingAfterBitmap : UInt64
  namesSize : UInt64
  /-- The start of the counters less the start of the records, modulo `2 ^ 64`. -/
  countersDelta : UInt64
  /-- The start of the bitmap less the start of the records, modulo `2 ^ 64`. -/
  bitmapDelta : UInt64
  namesStart : UInt64
  lastValueKind : UInt64
  deriving DecidableEq, Repr

namespace Header

/-- The version of the format that the library writes. -/
def currentVersion : UInt64 := 9

def wordCount : Nat := 14

def byteCount : Nat := 8 * wordCount

def words (h : Header) : List UInt64 :=
  [h.magic, h.version, h.binaryIdsSize, h.numRecords, h.paddingBeforeCounters, h.numCounters,
    h.paddingAfterCounters, h.numBitmapBytes, h.paddingAfterBitmap, h.namesSize, h.countersDelta,
    h.bitmapDelta, h.namesStart, h.lastValueKind]

/-- The header with the given words; there have to be fourteen. -/
def ofWords? : List UInt64 → Option Header
  | [magic, version, binaryIdsSize, numRecords, paddingBeforeCounters, numCounters,
      paddingAfterCounters, numBitmapBytes, paddingAfterBitmap, namesSize, countersDelta,
      bitmapDelta, namesStart, lastValueKind] =>
    some { magic, version, binaryIdsSize, numRecords, paddingBeforeCounters, numCounters,
           paddingAfterCounters, numBitmapBytes, paddingAfterBitmap, namesSize, countersDelta,
           bitmapDelta, namesStart, lastValueKind }
  | _ => none

def encode (h : Header) : ByteArray := wordsBytes h.words

def decode? (bytes : ByteArray) : Option Header :=
  if bytes.size = byteCount then ofWords? (words? wordCount bytes.data.toList) else none
where
  words? : Nat → List UInt8 → List UInt64
    | 0, _ => []
    | n + 1, bs => wordOfBytes (bs.take 8) :: words? n (bs.drop 8)

/-- The distance from the records to the counters; negative where the counters lie below. -/
def countersOffset (h : Header) : Int64 := h.countersDelta.toInt64

@[simp] theorem length_words (h : Header) : h.words.length = wordCount := rfl

@[simp] theorem ofWords?_words (h : Header) : ofWords? h.words = some h := rfl

@[simp] theorem size_encode (h : Header) : h.encode.size = byteCount := by
  simp [encode, byteCount]

end Header

end RawProfile

import RawProfile.Layout

/-!
# Reading profile files

A reader that knows nothing but the file: the header says how long every section is, the magic
number how long a record is, and the sections follow one another in a fixed order. What is left
after the names is padding.
-/

namespace RawProfile

/-- The parts of a profile file, in file order. -/
structure ProfileFile where
  header : Header
  binaryIds : ByteArray
  data : ByteArray
  paddingBeforeCounters : ByteArray
  counters : ByteArray
  paddingAfterCounters : ByteArray
  bitmap : ByteArray
  paddingAfterBitmap : ByteArray
  names : ByteArray
  rest : ByteArray
  deriving DecidableEq

namespace ProfileFile

/-- The first `n` bytes and the others; there have to be that many. -/
def cut? (n : Nat) (bytes : ByteArray) : Option (ByteArray × ByteArray) :=
  if n ≤ bytes.size then some (bytes.extract 0 n, bytes.extract n bytes.size) else none

/-- Cuts a file into its parts. A file whose magic number is unknown, or that ends within a section,
is no profile file. -/
def parse? (bytes : ByteArray) : Option ProfileFile := do
  let (start, rest) ← cut? Header.byteCount bytes
  let header ← Header.decode? start
  let width ← Width.ofMagic? header.magic
  let (binaryIds, rest) ← cut? header.binaryIdsSize.toNat rest
  let (data, rest) ← cut? (header.numRecords.toNat * width.recordSize.toNat) rest
  let (paddingBeforeCounters, rest) ← cut? header.paddingBeforeCounters.toNat rest
  let (counters, rest) ← cut? (header.numCounters.toNat * counterSize.toNat) rest
  let (paddingAfterCounters, rest) ← cut? header.paddingAfterCounters.toNat rest
  let (bitmap, rest) ← cut? header.numBitmapBytes.toNat rest
  let (paddingAfterBitmap, rest) ← cut? header.paddingAfterBitmap.toNat rest
  let (names, rest) ← cut? header.namesSize.toNat rest
  return { header, binaryIds, data, paddingBeforeCounters, counters, paddingAfterCounters, bitmap,
           paddingAfterBitmap, names, rest }

def render (f : ProfileFile) : ByteArray :=
  f.header.encode ++ f.binaryIds ++ f.data ++ f.paddingBeforeCounters ++ f.counters ++
    f.paddingAfterCounters ++ f.bitmap ++ f.paddingAfterBitmap ++ f.names ++ f.rest

theorem cut?_append {n : Nat} {a b : ByteArray} (h : a.size = n) :
    cut? n (a ++ b) = some (a, b) := by
  subst h
  rw [cut?, if_pos (by simp), ByteArray.extract_append_eq_left rfl,
    ByteArray.extract_append_eq_right rfl (by simp)]

end ProfileFile

end RawProfile

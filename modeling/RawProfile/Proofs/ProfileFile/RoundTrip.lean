import RawProfile.ProfileFile
import RawProfile.Proofs.Header.Codec

/-!
# Reading profile files back

A file whose parts are as long as its header says (`ProfileFile.Sized`) is read back as it was
written: `parse?_render`.
-/

namespace RawProfile

namespace ProfileFile

/-- The parts are as long as the header says, and the magic number is that of the width. -/
structure Sized (f : ProfileFile) (width : Width) : Prop where
  magic : f.header.magic = width.magic
  binaryIds : f.binaryIds.size = f.header.binaryIdsSize.toNat
  data : f.data.size = f.header.numRecords.toNat * width.recordSize.toNat
  paddingBeforeCounters : f.paddingBeforeCounters.size = f.header.paddingBeforeCounters.toNat
  counters : f.counters.size = f.header.numCounters.toNat * counterSize.toNat
  paddingAfterCounters : f.paddingAfterCounters.size = f.header.paddingAfterCounters.toNat
  bitmap : f.bitmap.size = f.header.numBitmapBytes.toNat
  paddingAfterBitmap : f.paddingAfterBitmap.size = f.header.paddingAfterBitmap.toNat
  names : f.names.size = f.header.namesSize.toNat

theorem parse?_render {f : ProfileFile} {width : Width} (h : f.Sized width) :
    parse? f.render = some f := by
  have hwidth : Width.ofMagic? f.header.magic = some width := by
    rw [h.magic, Width.ofMagic?_magic]
  simp only [parse?, render, ByteArray.append_assoc, cut?_append f.header.size_encode,
    Header.decode?_encode, hwidth, cut?_append h.binaryIds, cut?_append h.data,
    cut?_append h.paddingBeforeCounters, cut?_append h.counters,
    cut?_append h.paddingAfterCounters, cut?_append h.bitmap, cut?_append h.paddingAfterBitmap,
    cut?_append h.names, Option.bind_eq_bind, Option.bind_some]
  rfl

end ProfileFile

end RawProfile

import RawProfile.Memory.Image

/-!
# Reading memory byte by byte

`MemoryImage.Holds image start bytes`: from the address `start` on, the image has exactly `bytes`.
`holds_of_read` says that a range that can be read holds what is read, and `Holds.extract` that a
part of a string lies where the string puts it. Both forget which region the bytes came from.
-/

namespace RawProfile

namespace Region

theorem at?_eq_getElem {r : Region} {a : Nat} (hbase : r.base.toNat ≤ a)
    (hlimit : a - r.base.toNat < r.bytes.size) : r.at? a = some r.bytes[a - r.base.toNat] := by
  rw [at?, if_pos hbase]
  exact Array.getElem?_eq_getElem hlimit

theorem range_of_at? {r : Region} {a : Nat} {b : UInt8} (h : r.at? a = some b) :
    r.base.toNat ≤ a ∧ a < r.limit := by
  unfold at? at h
  split at h
  · next hbase =>
    obtain ⟨hlt, -⟩ := Array.getElem?_eq_some_iff.1 h
    have : a - r.base.toNat < r.bytes.size := hlt
    exact ⟨hbase, by unfold limit; omega⟩
  · cases h

/-- No two regions reach the same address, so the first one found is the one meant. -/
theorem findSome?_at? {rs : List Region} (h : rs.Pairwise fun r s => r.limit < s.base.toNat)
    {r : Region} (hr : r ∈ rs) {a : Nat} {b : UInt8} (hb : r.at? a = some b) :
    rs.findSome? (·.at? a) = some b := by
  induction rs with
  | nil => cases hr
  | cons s rs ih =>
    obtain ⟨hs, hrs⟩ := List.pairwise_cons.1 h
    rw [List.findSome?_cons]
    rcases List.mem_cons.1 hr with rfl | hr
    · rw [hb]
    · have hnone : s.at? a = none := by
        refine Option.eq_none_iff_forall_ne_some.2 fun c hc => ?_
        have := hs r hr
        have := range_of_at? hb
        have := range_of_at? hc
        omega
      rw [hnone]
      exact ih hrs hr

theorem covers_iff {r : Region} {start length : Nat} :
    r.covers start length = true ↔ r.base.toNat ≤ start ∧ start + length ≤ r.limit := by
  simp only [covers, Bool.and_eq_true, decide_eq_true_eq]

theorem size_slice {r : Region} {start length : Nat} (h : r.covers start length = true) :
    (r.slice start length).size = length := by
  obtain ⟨hbase, hlimit⟩ := covers_iff.1 h
  unfold limit at hlimit
  rw [slice, ByteArray.size_extract]
  omega

theorem at?_slice {r : Region} {start length : Nat} (h : r.covers start length = true) {i : Nat}
    (hi : i < (r.slice start length).size) :
    r.at? (start + i) = some (r.slice start length)[i] := by
  obtain ⟨hbase, hlimit⟩ := covers_iff.1 h
  unfold limit at hlimit
  rw [size_slice h] at hi
  rw [at?_eq_getElem (by omega) (by omega)]
  simp only [slice, ByteArray.getElem_extract]
  congr 2
  omega

end Region

namespace SparseMemory

theorem at?_of_mem {m : SparseMemory} {r : Region} (hr : r ∈ m.regions) {a : Nat} {b : UInt8}
    (hb : r.at? a = some b) : m.at? a = some b :=
  Region.findSome?_at? m.spaced.gaps hr hb

theorem size_of_read {m : SparseMemory} {start length : UInt64} {bytes : ByteArray}
    (h : m.read start length = some bytes) : bytes.size = length.toNat := by
  unfold read at h
  split at h
  · next h0 =>
    cases h
    rw [h0]
    rfl
  · obtain ⟨r, hr, rfl⟩ := Option.map_eq_some_iff.1 h
    have hcovers : r.covers start.toNat length.toNat = true := by simpa using List.find?_some hr
    exact Region.size_slice hcovers

theorem at?_of_read {m : SparseMemory} {start length : UInt64} {bytes : ByteArray}
    (h : m.read start length = some bytes) {i : Nat} (hi : i < bytes.size) :
    m.at? (start.toNat + i) = some bytes[i] := by
  unfold read at h
  split at h
  · cases h
    exact absurd hi (Nat.not_lt_zero i)
  · obtain ⟨r, hr, rfl⟩ := Option.map_eq_some_iff.1 h
    have hcovers : r.covers start.toNat length.toNat = true := by simpa using List.find?_some hr
    exact at?_of_mem (List.mem_of_find?_eq_some hr) (Region.at?_slice hcovers hi)

end SparseMemory

namespace ProcessMemory

@[simp] theorem size_bytes (m : ProcessMemory) (start length : UInt64) :
    (m.bytes start length).size = length.toNat := by
  simp [bytes]

theorem getElem_bytes (m : ProcessMemory) (start length : UInt64) {i : Nat}
    (hi : i < (m.bytes start length).size) :
    (m.bytes start length)[i] = m.byteAt (start + .ofNat i) := by
  simp [bytes]

theorem eq_bytes_of_read {m : ProcessMemory} {start length : UInt64} {bytes : ByteArray}
    (h : m.read start length = some bytes) : bytes = m.bytes start length := by
  unfold read at h
  split at h
  · next h0 =>
    cases h
    rw [h0]
    rfl
  · split at h
    · cases h
    · exact (Option.some.inj h).symm

theorem size_of_read {m : ProcessMemory} {start length : UInt64} {bytes : ByteArray}
    (h : m.read start length = some bytes) : bytes.size = length.toNat := by
  rw [eq_bytes_of_read h, size_bytes]

theorem byteAt_of_read {m : ProcessMemory} {start length : UInt64} {bytes : ByteArray}
    (h : m.read start length = some bytes) {i : Nat} (hi : i < bytes.size) :
    start.toNat + i < UInt64.size ∧ m.byteAt (.ofNat (start.toNat + i)) = bytes[i] := by
  have hsize := size_of_read h
  unfold read at h
  split at h
  · cases h
    exact absurd hi (Nat.not_lt_zero i)
  · split at h
    · cases h
    · next hrange =>
      cases h
      simp only [maxLimit, not_or, Nat.not_lt] at hrange
      refine ⟨by simp only [UInt64.size]; omega, ?_⟩
      rw [getElem_bytes, UInt64.ofNat_add, UInt64.ofNat_toNat]

end ProcessMemory

namespace MemoryImage

/-- From an address on, the image has the given bytes. -/
def Holds (image : MemoryImage) (start : Nat) (bytes : ByteArray) : Prop :=
  ∀ i, (hi : i < bytes.size) → image.at? (start + i) = some bytes[i]

theorem size_of_read {image : MemoryImage} {start length : UInt64} {bytes : ByteArray}
    (h : image.read start length = some bytes) : bytes.size = length.toNat := by
  cases image with
  | sparse m => exact SparseMemory.size_of_read h
  | live m => exact ProcessMemory.size_of_read h

theorem holds_of_read {image : MemoryImage} {start length : UInt64} {bytes : ByteArray}
    (h : image.read start length = some bytes) : image.Holds start.toNat bytes := by
  intro i hi
  cases image with
  | sparse m => exact SparseMemory.at?_of_read h hi
  | live m =>
    obtain ⟨hlt, hbyte⟩ := ProcessMemory.byteAt_of_read h hi
    rw [at?, if_pos hlt, hbyte]

variable {image : MemoryImage} {start : Nat} {bytes : ByteArray}

theorem Holds.extract (h : image.Holds start bytes) (offset length : Nat) :
    image.Holds (start + offset) (bytes.extract offset (offset + length)) := by
  intro i hi
  rw [ByteArray.size_extract] at hi
  rw [Nat.add_assoc, h (offset + i) (by omega), ByteArray.getElem_extract]

theorem holds_empty (image : MemoryImage) (start : Nat) : image.Holds start .empty :=
  fun i hi => absurd hi (Nat.not_lt_zero i)

/-- Two strings of which the second lies where the first ends are one. -/
theorem Holds.append {other : ByteArray} (h : image.Holds start bytes)
    (h' : image.Holds (start + bytes.size) other) : image.Holds start (bytes ++ other) := by
  intro i hi
  rw [ByteArray.size_append] at hi
  rcases Nat.lt_or_ge i bytes.size with hlt | hge
  · rw [ByteArray.getElem_append_left hlt, h i hlt]
  · rw [ByteArray.getElem_append_right hge, ← h' (i - bytes.size) (by omega)]
    congr 1
    omega

theorem Holds.eq {other : ByteArray} (h : image.Holds start bytes) (h' : image.Holds start other)
    (hsize : bytes.size = other.size) : bytes = other :=
  ByteArray.ext_getElem hsize fun i hi hi' => Option.some.inj ((h i hi).symm.trans (h' i hi'))

end MemoryImage

end RawProfile

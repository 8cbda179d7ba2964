import RawProfile.FunctionRecord
import RawProfile.Word

/-!
# Sparse memory

Memory at chosen addresses, built up by writes. Writes that overlap or touch are kept as one
region, so a range that several writes cover together reads back as one string, and an address
that no write covered is never made up. `SparseMemory.at?` views the memory as a map from addresses
to bytes.
-/

namespace RawProfile

/-- Consecutive bytes in memory. -/
structure Region where
  base : UInt64
  bytes : ByteArray
  deriving DecidableEq

namespace Region

/-- The address after the last byte, as a number: it may be `2 ^ 64`. -/
def limit (r : Region) : Nat := r.base.toNat + r.bytes.size

def at? (r : Region) (a : Nat) : Option UInt8 :=
  if r.base.toNat ≤ a then r.bytes.data[a - r.base.toNat]? else none

/-- The region holds every address from `start` up to `start + length`. -/
def covers (r : Region) (start length : Nat) : Bool :=
  r.base.toNat ≤ start && start + length ≤ r.limit

def slice (r : Region) (start length : Nat) : ByteArray :=
  r.bytes.extract (start - r.base.toNat) (start + length - r.base.toNat)

def below (r : Region) (a : Nat) : ByteArray :=
  if r.limit ≤ a then r.bytes else r.bytes.extract 0 (a - r.base.toNat)

def above (r : Region) (a : Nat) : ByteArray := r.bytes.extract (a - r.base.toNat) r.bytes.size

/-- One region out of two that overlap or touch: the bytes of `new`, and those of `old` on either
side of it. Bytes that come after all of `old` are just added to it. -/
def absorb (new old : Region) : Region :=
  if old.limit ≤ new.base.toNat then { base := old.base, bytes := old.bytes ++ new.bytes }
  else {
    base := min new.base old.base
    bytes := old.below new.base.toNat ++ new.bytes ++ old.above new.limit }

theorem absorb_eq (new old : Region) :
    new.absorb old = ⟨min new.base old.base,
      old.below new.base.toNat ++ new.bytes ++ old.above new.limit⟩ := by
  unfold absorb
  split
  · next h =>
    have hle : old.base ≤ new.base := by
      rw [limit] at h
      exact UInt64.le_iff_toNat_le.2 (by omega)
    have hbase : min new.base old.base = old.base := by
      change (if new.base ≤ old.base then new.base else old.base) = old.base
      split
      · next h' => exact UInt64.le_antisymm h' hle
      · rfl
    have habove : old.above new.limit = .empty := by
      rw [limit] at h
      rw [above, limit]
      exact ByteArray.extract_eq_empty_iff.2 (by omega)
    rw [hbase, habove, below, if_pos h, ByteArray.append_empty]
  · rfl

/-- Puts a region into a list sorted by base, in which no two regions touch; each region that the
new one overlaps or touches is merged into it. -/
def insert (new : Region) : List Region → List Region
  | [] => [new]
  | r :: rs =>
    if r.limit < new.base.toNat then r :: insert new rs
    else if new.limit < r.base.toNat then new :: r :: rs
    else insert (new.absorb r) rs

/-- The regions are in the order of their addresses with a gap after each but the last, and none
reaches the top of the address space. -/
structure Spaced (rs : List Region) : Prop where
  gaps : rs.Pairwise fun r s => r.limit < s.base.toNat
  bounded : ∀ r ∈ rs, r.limit < UInt64.size

theorem spaced_nil : Spaced [] := ⟨.nil, fun _ h => absurd h List.not_mem_nil⟩

theorem toNat_base_absorb (new old : Region) :
    (new.absorb old).base.toNat = min new.base.toNat old.base.toNat := by
  rw [absorb_eq, Word.toNat_min]

theorem limit_absorb {new old : Region} (hold : new.base.toNat ≤ old.limit)
    (hnew : old.base.toNat ≤ new.limit) : (new.absorb old).limit = max new.limit old.limit := by
  have hbelow : (old.below new.base.toNat).size = new.base.toNat - old.base.toNat := by
    unfold below
    unfold limit at hold ⊢
    split
    · omega
    · rw [ByteArray.size_extract]
      omega
  have habove : (old.above new.limit).size = old.bytes.size - (new.limit - old.base.toNat) := by
    rw [above, ByteArray.size_extract, Nat.min_self]
  unfold limit at habove hold hnew ⊢
  rw [toNat_base_absorb, absorb_eq]
  simp only [ByteArray.size_append, limit, hbelow, habove]
  omega

theorem lt_base_insert {a : Nat} {new : Region} {rs : List Region} (hnew : a < new.base.toNat)
    (hrs : ∀ r ∈ rs, a < r.base.toNat) : ∀ r ∈ insert new rs, a < r.base.toNat := by
  induction rs generalizing new with
  | nil => simpa [insert] using hnew
  | cons r rs ih =>
    obtain ⟨hr, hrs⟩ := List.forall_mem_cons.1 hrs
    rw [insert]
    split
    · exact List.forall_mem_cons.2 ⟨hr, ih hnew hrs⟩
    · split
      · exact List.forall_mem_cons.2 ⟨hnew, List.forall_mem_cons.2 ⟨hr, hrs⟩⟩
      · refine ih ?_ hrs
        rw [toNat_base_absorb]
        omega

theorem limit_insert_lt {a : Nat} {new : Region} {rs : List Region} (hnew : new.limit < a)
    (hrs : ∀ r ∈ rs, r.limit < a) : ∀ r ∈ insert new rs, r.limit < a := by
  induction rs generalizing new with
  | nil => simpa [insert] using hnew
  | cons r rs ih =>
    obtain ⟨hr, hrs⟩ := List.forall_mem_cons.1 hrs
    rw [insert]
    split
    · exact List.forall_mem_cons.2 ⟨hr, ih hnew hrs⟩
    · split
      · exact List.forall_mem_cons.2 ⟨hnew, List.forall_mem_cons.2 ⟨hr, hrs⟩⟩
      · refine ih ?_ hrs
        rw [limit_absorb (by omega) (by omega)]
        omega

theorem gaps_insert {new : Region} {rs : List Region}
    (h : rs.Pairwise fun r s => r.limit < s.base.toNat) :
    (insert new rs).Pairwise fun r s => r.limit < s.base.toNat := by
  induction rs generalizing new with
  | nil => exact List.pairwise_singleton _ new
  | cons r rs ih =>
    obtain ⟨hr, hrs⟩ := List.pairwise_cons.1 h
    rw [insert]
    split
    · next hlt => exact List.pairwise_cons.2 ⟨lt_base_insert hlt hr, ih hrs⟩
    · split
      · next hlt =>
        refine List.pairwise_cons.2 ⟨List.forall_mem_cons.2 ⟨hlt, fun s hs => ?_⟩, h⟩
        have := hr s hs
        unfold limit at this
        omega
      · exact ih hrs

theorem Spaced.insert {new : Region} {rs : List Region} (h : Spaced rs)
    (hnew : new.limit < UInt64.size) : Spaced (insert new rs) :=
  ⟨gaps_insert h.gaps, limit_insert_lt hnew h.bounded⟩

end Region

/-- Memory as regions in the order of their addresses, with a gap after each but the last. -/
structure SparseMemory where
  regions : List Region := []
  spaced : Region.Spaced regions := by exact Region.spaced_nil
  deriving DecidableEq

namespace SparseMemory

def empty : SparseMemory := {}

/-- Puts bytes at an address; the last write to an address wins. A write that would end past the
largest word is refused. -/
def write (m : SparseMemory) (address : UInt64) (bytes : ByteArray) :
    Except WordFault SparseMemory :=
  if h : address.toNat + bytes.size < UInt64.size then
    .ok ⟨Region.insert ⟨address, bytes⟩ m.regions, m.spaced.insert h⟩
  else .error .addition

def writeRecord (m : SparseMemory) (address : UInt64) (record : FunctionRecord) :
    Except WordFault SparseMemory :=
  m.write address record.encode

def writeCounters (m : SparseMemory) (address : UInt64) (counters : List UInt64) :
    Except WordFault SparseMemory :=
  m.write address (wordsBytes counters)

/-- The bytes from `start` up to `start + length`, if every one of them was written. -/
def read (m : SparseMemory) (start length : UInt64) : Option ByteArray :=
  if length = 0 then some .empty
  else (m.regions.find? (·.covers start.toNat length.toNat)).map
    (·.slice start.toNat length.toNat)

def at? (m : SparseMemory) (a : Nat) : Option UInt8 := m.regions.findSome? (·.at? a)

def regionCount (m : SparseMemory) : Nat := m.regions.length

end SparseMemory

end RawProfile

import Mathlib.Data.List.Pairwise
import RawProfile.Proofs.Memory.View

/-!
# Sparse memory as a map from addresses to bytes

What the regions are made of does not show: memory is decided by its bytes. `at?_write`: a write
lies over what was there and leaves every other address alone. `read_eq_some_iff`: reading gives a
string exactly when the memory holds it, and `isSome_read_iff` that there is one as soon as every
address of the range has a byte, because regions that touch have been joined.
-/

namespace RawProfile

namespace Region

theorem isSome_at?_iff {r : Region} {a : Nat} :
    (r.at? a).isSome ↔ r.base.toNat ≤ a ∧ a < r.limit := by
  constructor
  · intro h
    obtain ⟨b, hb⟩ := Option.isSome_iff_exists.1 h
    exact range_of_at? hb
  · rintro ⟨hbase, hlimit⟩
    unfold limit at hlimit
    rw [at?_eq_getElem hbase (by omega)]
    rfl

theorem at?_eq_none_iff {r : Region} {a : Nat} :
    r.at? a = none ↔ a < r.base.toNat ∨ r.limit ≤ a := by
  rw [← Option.not_isSome_iff_eq_none, isSome_at?_iff]
  omega

/-! ## Writing -/

theorem getElem?_below {r : Region} {a i : Nat} (h : i < a - r.base.toNat) :
    (r.below a).data[i]? = r.bytes.data[i]? := by
  unfold below
  split
  · rfl
  · next hlimit =>
    unfold limit at hlimit
    rw [ByteArray.data_extract, Array.getElem?_extract, if_pos, Nat.zero_add]
    change i < min _ r.bytes.size - 0
    omega

theorem getElem?_above (r : Region) (a i : Nat) :
    (r.above a).data[i]? = r.bytes.data[a - r.base.toNat + i]? := by
  rw [above, ByteArray.data_extract, Array.getElem?_extract]
  split
  · rfl
  · next h =>
    have hsize : ¬ i < min r.bytes.size r.bytes.size - (a - r.base.toNat) := h
    refine (Array.getElem?_eq_none ?_).symm
    change r.bytes.size ≤ _
    omega

theorem size_below {r : Region} {a : Nat} (h : a ≤ r.limit) :
    (r.below a).size = a - r.base.toNat := by
  unfold below
  unfold limit at h ⊢
  split
  · omega
  · rw [ByteArray.size_extract]
    omega

/-- Where two regions overlap, the bytes are those of the new one. -/
theorem at?_absorb {new old : Region} (hold : new.base.toNat ≤ old.limit)
    (hnew : old.base.toNat ≤ new.limit) (a : Nat) :
    (new.absorb old).at? a = (new.at? a).or (old.at? a) := by
  have hbase := toNat_base_absorb new old
  have hbelow : (old.below new.base.toNat).data.size = new.base.toNat - old.base.toNat :=
    size_below hold
  have hdata : (new.absorb old).bytes.data =
      (old.below new.base.toNat).data ++ (new.bytes.data ++ (old.above new.limit).data) := by
    rw [absorb_eq, ByteArray.data_append, ByteArray.data_append, Array.append_assoc]
  have hsize : new.bytes.data.size = new.bytes.size := rfl
  unfold at?
  rw [hbase, hdata, Array.getElem?_append, hbelow, Array.getElem?_append, getElem?_above, hsize]
  unfold limit at hold hnew ⊢
  rcases Nat.lt_or_ge a new.base.toNat with hlt | hge
  · rw [if_neg (by omega : ¬ new.base.toNat ≤ a), Option.none_or]
    by_cases hle : old.base.toNat ≤ a
    · rw [if_pos hle, if_pos (by omega), if_pos (by omega), getElem?_below (by omega)]
      congr 1
      omega
    · rw [if_neg hle, if_neg (by omega)]
  · have hindex : a - min new.base.toNat old.base.toNat - (new.base.toNat - old.base.toNat) =
        a - new.base.toNat := by omega
    rw [if_pos hge, if_pos (by omega), if_neg (by omega), hindex]
    by_cases hin : a - new.base.toNat < new.bytes.size
    · have hsome : new.bytes.data[a - new.base.toNat]? = some new.bytes[a - new.base.toNat] :=
        Array.getElem?_eq_getElem hin
      rw [if_pos hin, hsome, Option.some_or]
    · have hnone : new.bytes.data[a - new.base.toNat]? = none :=
        Array.getElem?_eq_none (Nat.not_lt.1 hin)
      rw [if_neg hin, hnone, Option.none_or, if_pos (by omega)]
      congr 1
      omega

theorem findSome?_at?_insert (new : Region) (rs : List Region) (a : Nat) :
    (insert new rs).findSome? (·.at? a) = (new.at? a).or (rs.findSome? (·.at? a)) := by
  induction rs generalizing new with
  | nil =>
    rw [insert, List.findSome?_singleton, List.findSome?_nil, Option.or_none]
  | cons r rs ih =>
    rw [insert]
    split
    · next hlt =>
      rw [List.findSome?_cons, ih, List.findSome?_cons]
      cases hr : r.at? a with
      | none => rfl
      | some b =>
        have hrange := range_of_at? hr
        have hnew : new.at? a = none := at?_eq_none_iff.2 (.inl (by omega))
        rw [hnew]
        rfl
    · split
      · rw [List.findSome?_cons]
        cases new.at? a <;> rfl
      · rw [ih, at?_absorb (by omega) (by omega), List.findSome?_cons]
        cases new.at? a with
        | none => cases r.at? a <;> rfl
        | some b => rfl

/-! ## Reading -/

/-- No two regions of memory reach the same address, nor does one end where another begins. -/
theorem eq_of_mem {rs : List Region} (h : rs.Pairwise fun r s => r.limit < s.base.toNat)
    {r s : Region} (hr : r ∈ rs) (hs : s ∈ rs) (hrs : r.base.toNat ≤ s.limit)
    (hsr : s.base.toNat ≤ r.limit) : r = s := by
  by_contra hne
  have happart : rs.Pairwise fun r s => r.limit < s.base.toNat ∨ s.limit < r.base.toNat :=
    h.imp Or.inl
  have : Std.Symm fun r s : Region => r.limit < s.base.toNat ∨ s.limit < r.base.toNat :=
    ⟨fun _ _ => Or.symm⟩
  have := happart.forall hr hs hne
  omega

/-- A range of which every address has a byte lies in one region. -/
theorem exists_covers {rs : List Region} (h : rs.Pairwise fun r s => r.limit < s.base.toNat)
    {start length : Nat} (hpos : 0 < length)
    (hbytes : ∀ a, start ≤ a → a < start + length → ∃ r ∈ rs, (r.at? a).isSome) :
    ∃ r ∈ rs, r.covers start length = true := by
  obtain ⟨r, hr, hstart⟩ := hbytes start (Nat.le_refl _) (by omega)
  obtain ⟨hbase, hlimit⟩ := isSome_at?_iff.1 hstart
  refine ⟨r, hr, covers_iff.2 ⟨hbase, ?_⟩⟩
  by_contra hend
  obtain ⟨s, hs, hbyte⟩ := hbytes r.limit (by omega) (by omega)
  obtain ⟨hsbase, hslimit⟩ := isSome_at?_iff.1 hbyte
  have hrs : r = s := eq_of_mem h hr hs (by omega) hsbase
  rw [hrs] at hslimit
  omega

end Region

namespace SparseMemory

variable {m m' : SparseMemory} {start length address : UInt64} {bytes : ByteArray}

theorem write_eq_error_iff {fault : WordFault} : m.write address bytes = .error fault ↔
    UInt64.size ≤ address.toNat + bytes.size ∧ fault = .addition := by
  unfold write
  split
  · next h =>
    simp only [reduceCtorEq, false_iff]
    omega
  · next h =>
    simp only [Except.error.injEq, Nat.not_lt.1 h, true_and]
    exact eq_comm

/-- A write lies over what was there. -/
theorem at?_write (h : m.write address bytes = .ok m') (a : Nat) :
    m'.at? a = ((⟨address, bytes⟩ : Region).at? a).or (m.at? a) := by
  unfold write at h
  split at h
  · cases h
    exact Region.findSome?_at?_insert _ _ a
  · cases h

theorem exists_write (m : SparseMemory) (address : UInt64) (bytes : ByteArray)
    (h : address.toNat + bytes.size < UInt64.size) :
    ∃ m', m.write address bytes = .ok m' := ⟨_, dif_pos h⟩

theorem holds_write (h : m.write address bytes = .ok m') :
    (MemoryImage.sparse m').Holds address.toNat bytes := by
  intro i hi
  have hbase : (⟨address, bytes⟩ : Region).base.toNat ≤ address.toNat + i := Nat.le_add_right _ _
  have hoffset : address.toNat + i - address.toNat = i := Nat.add_sub_cancel_left _ _
  change m'.at? _ = _
  rw [at?_write h, Region.at?_eq_getElem hbase (by rwa [hoffset]), Option.some_or]
  exact congrArg some (getElem_congr_idx hoffset)

theorem holds_write_of_apart {old : ByteArray} {place : Nat} (h : m.write address bytes = .ok m')
    (hold : (MemoryImage.sparse m).Holds place old)
    (hapart : place + old.size ≤ address.toNat ∨ address.toNat + bytes.size ≤ place) :
    (MemoryImage.sparse m').Holds place old := by
  intro i hi
  have hnone : (⟨address, bytes⟩ : Region).at? (place + i) = none := by
    refine Region.at?_eq_none_iff.2 ?_
    simp only [Region.limit]
    omega
  change m'.at? _ = _
  rw [at?_write h, hnone, Option.none_or]
  exact hold i hi

theorem exists_mem_of_at? {a : Nat} (h : (m.at? a).isSome) :
    ∃ r ∈ m.regions, (r.at? a).isSome := by
  obtain ⟨b, hb⟩ := Option.isSome_iff_exists.1 h
  obtain ⟨r, hr, hrb⟩ := List.exists_of_findSome?_eq_some hb
  exact ⟨r, hr, Option.isSome_iff_exists.2 ⟨b, hrb⟩⟩

/-- A range can be read if all of its addresses have bytes, and only then. -/
theorem isSome_read_iff : (m.read start length).isSome ↔
    ∀ a, start.toNat ≤ a → a < start.toNat + length.toNat → (m.at? a).isSome := by
  constructor
  · intro h a hstart hend
    obtain ⟨bytes, hbytes⟩ := Option.isSome_iff_exists.1 h
    have hsize := size_of_read hbytes
    have hbyte := at?_of_read hbytes (i := a - start.toNat) (by omega)
    rw [Nat.add_sub_cancel' hstart] at hbyte
    exact Option.isSome_iff_exists.2 ⟨_, hbyte⟩
  · intro h
    unfold read
    split
    · rfl
    · next hlength =>
      have hpos : 0 < length.toNat :=
        Nat.pos_of_ne_zero fun h0 => hlength (UInt64.toNat_inj.1 h0)
      rw [Option.isSome_map, List.find?_isSome]
      exact Region.exists_covers m.spaced.gaps hpos fun a hstart hend =>
        exists_mem_of_at? (h a hstart hend)

/-- Reading gives the string of the wanted length that the memory holds. -/
theorem read_eq_some_iff : m.read start length = some bytes ↔
    bytes.size = length.toNat ∧ (MemoryImage.sparse m).Holds start.toNat bytes := by
  constructor
  · intro h
    exact ⟨size_of_read h, fun _ hi => at?_of_read h hi⟩
  · rintro ⟨hsize, hholds⟩
    have hread : (m.read start length).isSome := by
      refine isSome_read_iff.2 fun a hstart hend => ?_
      have hbyte := hholds (a - start.toNat) (by omega)
      rw [Nat.add_sub_cancel' hstart] at hbyte
      exact Option.isSome_iff_exists.2 ⟨_, hbyte⟩
    obtain ⟨bytes', hbytes'⟩ := Option.isSome_iff_exists.1 hread
    have hholds' : (MemoryImage.sparse m).Holds start.toNat bytes' :=
      fun _ hi => at?_of_read hbytes' hi
    rw [hbytes', hholds'.eq hholds ((size_of_read hbytes').trans hsize.symm)]

end SparseMemory

end RawProfile

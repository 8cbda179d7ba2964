import Mathlib.Algebra.Order.Floor.Div
import Mathlib.Order.Bounds.Basic
import RawProfile.Proofs.Layout.Refusal

/-!
# The limits of a layout

Every size in unbounded numbers. `wholeSize` is the least number of whole units that holds some
bytes (`isLeast_wholeSize`), and the names with their padding are such a size too
(`add_padding_eq`). `compute_exact` says that a layout is refused for the first of these sizes that
is no word, in the order data, counters, file, and that an accepted one comes to them exactly
(`Layout.Exact`).
-/

namespace RawProfile

theorem wholeSize_eq (bytes unit : Nat) : wholeSize bytes unit = unit * (bytes ⌈/⌉ unit) :=
  Nat.mul_comm _ _

/-- Rounding up goes no further than to the next multiple. -/
theorem isLeast_wholeSize {unit : Nat} (h : 0 < unit) (bytes : Nat) :
    IsLeast {size | unit ∣ size ∧ bytes ≤ size} (wholeSize bytes unit) := by
  rw [wholeSize_eq]
  refine ⟨⟨Nat.dvd_mul_right _ _, le_smul_ceilDiv h⟩, ?_⟩
  rintro size ⟨⟨count, rfl⟩, hbytes⟩
  exact Nat.mul_le_mul_left unit ((ceilDiv_le_iff_le_mul h).2 hbytes)

def padding (names : Nat) : Nat := (8 - names % 8) % 8

theorem add_padding_eq (names : Nat) : names + padding names = wholeSize names 8 := by
  unfold padding wholeSize
  omega

def fileSize (recordSize data counters names : Nat) : Nat :=
  112 + wholeSize data recordSize + wholeSize counters 8 + names + padding names

theorem fileSize_eq (recordSize data counters names : Nat) :
    fileSize recordSize data counters names = Header.byteCount + wholeSize data recordSize +
      wholeSize counters 8 + wholeSize names 8 := by
  rw [fileSize, Nat.add_assoc _ names, add_padding_eq]
  rfl

theorem dvd_fileSize {recordSize : Nat} (h : 8 ∣ recordSize) (data counters names : Nat) :
    8 ∣ fileSize recordSize data counters names := by
  have hheader : 8 ∣ Header.byteCount := by decide
  rw [fileSize_eq]
  refine Nat.dvd_add (Nat.dvd_add (Nat.dvd_add hheader ?_) ?_) ?_
  · exact Nat.dvd_trans h (Nat.dvd_mul_left _ _)
  · exact Nat.dvd_mul_left _ _
  · exact Nat.dvd_mul_left _ _

namespace Layout

variable {l : Layout} {recordSize data counters names : UInt64}

theorem validSize_iff_dvd : ValidSize recordSize ↔ recordSize ≠ 0 ∧ 8 ∣ recordSize.toNat := by
  have hmod : (recordSize % 8).toNat = recordSize.toNat % 8 := UInt64.toNat_mod recordSize 8
  rw [ValidSize, Nat.dvd_iff_mod_eq_zero, ← hmod, ← UInt64.toNat_inj (b := 0)]
  rfl

theorem length_ofSpans_eq (recordSize data counters names : UInt64) :
    (ofSpans recordSize data counters names).length =
      fileSize recordSize.toNat data.toNat counters.toNat names.toNat := by
  rw [length_ofSpans, fileSize_eq]

/-- The first size that is no word, in numbers of the spans. -/
theorem exceeds_ofSpans_iff {m : Measure} :
    (ofSpans recordSize data counters names).Exceeds m ↔ match m with
      | .data => 2 ^ 64 ≤ wholeSize data.toNat recordSize.toNat
      | .counters => wholeSize data.toNat recordSize.toNat < 2 ^ 64 ∧
          2 ^ 64 ≤ wholeSize counters.toNat 8
      | .file => wholeSize data.toNat recordSize.toNat < 2 ^ 64 ∧
          wholeSize counters.toNat 8 < 2 ^ 64 ∧
          2 ^ 64 ≤ fileSize recordSize.toNat data.toNat counters.toNat names.toNat := by
  have hdata := toNat_numRecords_mul recordSize data counters names
  have hcounters := toNat_numCounters_mul recordSize data counters names
  have hfile := length_ofSpans_eq recordSize data counters names
  cases m with
  | data => rw [Exceeds, ← hdata]; rfl
  | counters => rw [Exceeds, ← hdata, ← hcounters]; rfl
  | file => rw [Exceeds, ← hdata, ← hcounters, ← hfile]; rfl

theorem compute_eq_overflow_iff {m : Measure} :
    compute recordSize data counters names = .error (.overflow m) ↔
      ValidSize recordSize ∧ (ofSpans recordSize data counters names).Exceeds m := by
  rw [compute_eq_error_iff]
  constructor
  · rintro (⟨-, h⟩ | ⟨hvalid, m', h, hexceeds⟩)
    · cases h
    · cases h
      exact ⟨hvalid, hexceeds⟩
  · rintro ⟨hvalid, hexceeds⟩
    exact .inr ⟨hvalid, m, rfl, hexceeds⟩

theorem compute_eq_invalidRecordSize_iff :
    compute recordSize data counters names = .error (.invalidRecordSize recordSize) ↔
      ¬ ValidSize recordSize := by
  rw [compute_eq_error_iff]
  constructor
  · rintro (⟨hvalid, -⟩ | ⟨-, m, h, -⟩)
    · exact hvalid
    · cases h
  · exact fun hvalid => .inl ⟨hvalid, rfl⟩

theorem exists_totalLength_iff (l : Layout) :
    (∃ n, l.totalLength = .ok n) ↔ l.length < 2 ^ 64 := by
  constructor
  · rintro ⟨n, hn⟩
    rw [← totalLength_eq_ok_iff.1 hn]
    exact n.toNat_lt
  · intro h
    exact ⟨.ofNat l.length, totalLength_eq_ok_iff.2 (UInt64.toNat_ofNat_of_lt' h)⟩

/-- A layout comes to the sizes of its spans, rounded up to whole elements and no further. -/
structure Exact (l : Layout) (recordSize data counters names : UInt64) : Prop where
  dataBytes : l.dataBytes.map UInt64.toNat = .ok (wholeSize data.toNat recordSize.toNat)
  counterBytes : l.counterBytes.map UInt64.toNat = .ok (wholeSize counters.toNat 8)
  namesSize : l.namesSize = names
  paddingAfterNames : l.paddingAfterNames.toNat = padding names.toNat
  totalLength : l.totalLength.map UInt64.toNat =
    .ok (fileSize recordSize.toNat data.toNat counters.toNat names.toNat)
  dvd_totalLength : 8 ∣ fileSize recordSize.toNat data.toNat counters.toNat names.toNat
  data_least : IsLeast {size | recordSize.toNat ∣ size ∧ data.toNat ≤ size}
    (wholeSize data.toNat recordSize.toNat)
  counters_least : IsLeast {size | 8 ∣ size ∧ counters.toNat ≤ size} (wholeSize counters.toNat 8)
  names_least : IsLeast {size | 8 ∣ size ∧ names.toNat ≤ size}
    (names.toNat + padding names.toNat)

theorem eq_ofSpans (h : compute recordSize data counters names = .ok l) :
    ValidSize recordSize ∧ l = ofSpans recordSize data counters names := by
  have hvalid : ValidSize recordSize := by
    by_contra hvalid
    rw [compute_of_not_valid hvalid] at h
    cases h
  refine ⟨hvalid, ?_⟩
  rw [compute_of_valid hvalid] at h
  cases htotal : (ofSpans recordSize data counters names).totalLength with
  | error e =>
    rw [htotal] at h
    cases h
  | ok n =>
    rw [htotal] at h
    cases h
    rfl

theorem exact_of_compute (h : compute recordSize data counters names = .ok l) :
    l.Exact recordSize data counters names := by
  have hfits := fits_of_compute h
  obtain ⟨hvalid, hl⟩ := eq_ofSpans h
  obtain ⟨-, hdvd⟩ := validSize_iff_dvd.1 hvalid
  refine
    { dataBytes := ?_
      counterBytes := ?_
      namesSize := hfits.namesSize
      paddingAfterNames := hfits.paddingAfterNames
      totalLength := ?_
      dvd_totalLength := dvd_fileSize hdvd _ _ _
      data_least := isLeast_wholeSize hfits.recordSize_pos _
      counters_least := isLeast_wholeSize (by decide) _
      names_least := ?_ }
  · rw [hfits.dataBytes, ← toNat_numRecords_mul recordSize data counters names, ← hl,
      ← hfits.toNat_dataBytes]
    rfl
  · rw [hfits.counterBytes, ← toNat_numCounters_mul recordSize data counters names, ← hl,
      ← hfits.toNat_counterBytes]
    rfl
  · rw [hfits.totalLength, ← length_ofSpans_eq, ← hl]
    exact congrArg Except.ok (UInt64.toNat_ofNat_of_lt' hfits.length_lt)
  · rw [add_padding_eq]
    exact isLeast_wholeSize (by decide) _

/-- Spans have a layout exactly if no size exceeds a word. -/
theorem exists_compute_iff : (∃ l, compute recordSize data counters names = .ok l) ↔
    ValidSize recordSize ∧
      fileSize recordSize.toNat data.toNat counters.toNat names.toNat < 2 ^ 64 := by
  constructor
  · rintro ⟨l, h⟩
    obtain ⟨hvalid, hl⟩ := eq_ofSpans h
    refine ⟨hvalid, ?_⟩
    rw [← length_ofSpans_eq, ← hl]
    exact (fits_of_compute h).length_lt
  · rintro ⟨hvalid, hlt⟩
    rw [← length_ofSpans_eq] at hlt
    obtain ⟨n, hn⟩ := (exists_totalLength_iff _).2 hlt
    rw [compute_of_valid hvalid, hn]
    exact ⟨_, rfl⟩

/-- A layout is refused for an impossible size of records, else for the first size that is no word,
and an accepted one is exact. Whoever builds a layout by hand gets its length if that is a word. -/
theorem compute_exact (recordSize data counters names : UInt64) (handmade : Layout) :
    let dataSize := wholeSize data.toNat recordSize.toNat
    let countersSize := wholeSize counters.toNat 8
    let wholeFile := fileSize recordSize.toNat data.toNat counters.toNat names.toNat
    let valid := recordSize ≠ 0 ∧ 8 ∣ recordSize.toNat
    let result := compute recordSize data counters names
    (result = .error (.invalidRecordSize recordSize) ↔ ¬ valid) ∧
    (result = .error (.overflow .data) ↔ valid ∧ 2 ^ 64 ≤ dataSize) ∧
    (result = .error (.overflow .counters) ↔
      valid ∧ dataSize < 2 ^ 64 ∧ 2 ^ 64 ≤ countersSize) ∧
    (result = .error (.overflow .file) ↔
      valid ∧ dataSize < 2 ^ 64 ∧ countersSize < 2 ^ 64 ∧ 2 ^ 64 ≤ wholeFile) ∧
    ((∃ l, result = .ok l ∧ l.Exact recordSize data counters names) ↔
      valid ∧ dataSize < 2 ^ 64 ∧ countersSize < 2 ^ 64 ∧ wholeFile < 2 ^ 64) ∧
    ((∃ n, handmade.totalLength = .ok n) ↔
      handmade.numRecords.toNat * handmade.recordSize.toNat < 2 ^ 64 ∧
      handmade.numCounters.toNat * 8 < 2 ^ 64 ∧ handmade.length < 2 ^ 64) := by
  intro dataSize countersSize wholeFile valid result
  have hvalid : ValidSize recordSize ↔ valid := validSize_iff_dvd
  refine ⟨?_, ?_, ?_, ?_, ?_, ?_⟩
  · rw [compute_eq_invalidRecordSize_iff, hvalid]
  · rw [compute_eq_overflow_iff, hvalid, exceeds_ofSpans_iff]
  · rw [compute_eq_overflow_iff, hvalid, exceeds_ofSpans_iff]
  · rw [compute_eq_overflow_iff, hvalid, exceeds_ofSpans_iff]
  · constructor
    · rintro ⟨l, h, -⟩
      obtain ⟨hvalid', hlt⟩ := exists_compute_iff.1 ⟨l, h⟩
      have hparts : dataSize ≤ wholeFile ∧ countersSize ≤ wholeFile := by
        simp only [dataSize, countersSize, wholeFile, fileSize]
        omega
      exact ⟨hvalid.1 hvalid', by omega, by omega, hlt⟩
    · rintro ⟨hvalid', -, -, hlt⟩
      obtain ⟨l, h⟩ := exists_compute_iff.2 ⟨hvalid.2 hvalid', hlt⟩
      exact ⟨l, h, exact_of_compute h⟩
  · rw [exists_totalLength_iff]
    constructor
    · intro hlt
      have hparts : handmade.numRecords.toNat * handmade.recordSize.toNat ≤ handmade.length ∧
          handmade.numCounters.toNat * 8 ≤ handmade.length := by
        unfold length
        omega
      exact ⟨by omega, by omega, hlt⟩
    · exact fun h => h.2.2

end Layout

end RawProfile

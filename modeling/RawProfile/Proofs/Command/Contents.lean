import RawProfile.Proofs.Command.Startup
import RawProfile.Proofs.Dump.Plan
import RawProfile.Proofs.Layout.Refusal

/-!
# The file of the specimen

`Specimen.file` writes the file of a specimen out in numbers: header, records, counters, names and
padding. This is the file that is planned when the specimen is dumped (`plans`, `file_plan`), also if
there are no functions, no counters or no names.
-/

namespace RawProfile.Specimen

/-! ## The file in numbers -/

def header (size : Size) : Header where
  magic := 0xff6c70726f667281
  version := 9
  binaryIdsSize := 0
  numRecords := .ofNat size.functions.toNat
  paddingBeforeCounters := 0
  numCounters := .ofNat (size.functions.toNat * size.counters.toNat)
  paddingAfterCounters := 0
  numBitmapBytes := 0
  paddingAfterBitmap := 0
  namesSize := size.namesLength
  countersDelta := if size.functions.toNat = 0 then 0 else 0xf00000
  bitmapDelta := 0
  namesStart := if size.namesLength.toNat = 0 then 0 else 0x10000000
  lastValueKind := 1

/-- The record of a function in the file; the fields that are not given are zero. -/
def fileRecord (size : Size) (i : Nat) : FunctionRecord where
  nameRef := .ofNat ((i + 1) * 0x9e3779b97f4a7c15)
  funcHash := .ofNat i
  counterPtr := .ofNat (0xf00000 + 8 * i * size.counters.toNat - 64 * i)
  numCounters := size.counters

/-- The bytes of `profrt_fn` and a zero. -/
def nameCycle : List UInt8 := [112, 114, 111, 102, 114, 116, 95, 102, 110, 0]

/-- The file of a specimen. -/
def file (size : Size) : ByteArray :=
  (header size).encode ++
    joined ((List.range size.functions.toNat).map fun i => (fileRecord size i).encode) ++
    wordsBytes ((List.range size.functions.toNat).flatMap fun i =>
      (List.range size.counters.toNat).map fun j => .ofNat ((i + 1) * (j + 1))) ++
    ((List.range size.namesLength.toNat).map fun i => nameCycle.getD (i % 10) 0).toByteArray ++
    zeroBytes ((8 - size.namesLength.toNat % 8) % 8)

variable {size : Size} {n i : Nat}

theorem record_eq (h : size.Bounded) (hi : i < size.functions.toNat) :
    record size i = fileRecord size i := by
  have hfew := h.functions
  have hall := h.mul_counters_le (Nat.le_of_lt hi)
  have hrecordAt := toNat_recordAddress (i := i) (by omega)
  have hcountersAt := toNat_countersAddress h (Nat.le_of_lt hi)
  rw [toNat_dataBase] at hrecordAt
  rw [toNat_countersBase] at hcountersAt
  have hname : nameRefStep * .ofNat (i + 1) = .ofNat ((i + 1) * 0x9e3779b97f4a7c15) := by
    rw [UInt64.ofNat_mul, UInt64.mul_comm]
    rfl
  have hpointer : countersAddress size i - recordAddress i =
      .ofNat (0xf00000 + 8 * i * size.counters.toNat - 64 * i) := by
    rw [← UInt64.toNat_inj, UInt64.toNat_sub_of_le _ _ (UInt64.le_iff_toNat_le.2 (by omega)),
      hrecordAt, hcountersAt, UInt64.toNat_ofNat_of_lt', Nat.mul_assoc]
    · omega
    · simp only [UInt64.size, Nat.mul_assoc]
      omega
  rw [record, fileRecord, hname, hpointer]

theorem recordBytes_eq (h : size.Bounded) : recordBytes size size.functions.toNat =
    joined ((List.range size.functions.toNat).map fun i => (fileRecord size i).encode) := by
  refine congrArg joined (List.map_congr_left fun i hi => ?_)
  rw [record_eq h (List.mem_range.1 hi)]

theorem names_eq (size : Size) : names size = ((List.range size.namesLength.toNat).map fun i =>
    nameCycle.getD (i % 10) 0).toByteArray := by
  have htext : nameText.data = nameCycle.toArray := by decide +kernel
  have hsize : nameText.size = 10 := by decide +kernel
  unfold names
  rw [htext, hsize]
  simp only [List.getElem?_toArray, List.getD_eq_getElem?_getD]

/-! ## What is dumped -/

theorem start_stretch (base : UInt64) (length n : Nat) :
    ((stretch base length n).getD .zero).start = if n = 0 then 0 else base := by
  unfold stretch
  split <;> rfl

theorem length_stretch {base : UInt64} {length n : Nat}
    (h : base.toNat + length * n < UInt64.size) :
    ((stretch base length n).getD .zero).length = .ofNat (length * n) := by
  have hlength : (UInt64.ofNat (length * n)).toNat = length * n :=
    UInt64.toNat_ofNat_of_lt' (by omega)
  unfold stretch
  split
  · next hn =>
    rw [hn]
    rfl
  · rw [← UInt64.toNat_inj, Option.getD_some, Span.toNat_length, Span.toNat_limit_ofLength, hlength]
    change min _ _ - base.toNat = _
    omega

theorem holds_stretch {image : MemoryImage} {base : UInt64} {bytes : ByteArray} {length n : Nat}
    (h : n ≠ 0 → image.Holds base.toNat bytes) (hempty : n = 0 → bytes = .empty) :
    image.Holds ((stretch base length n).getD .zero).start.toNat bytes := by
  rw [start_stretch]
  split
  · next hn =>
    rw [hempty hn]
    exact MemoryImage.holds_empty _ _
  · next hn => exact h hn

def dump (size : Size) (m : SparseMemory) : Dump :=
  { registry := finalRegistry size, image := .sparse m }

def layout (size : Size) : Layout :=
  .ofSpans Width.native.recordSize (.ofNat (64 * size.functions.toNat))
    (.ofNat (8 * size.counters.toNat * size.functions.toNat)) size.namesLength

theorem Size.Bounded.sections_lt (h : size.Bounded) :
    dataBase.toNat + 64 * size.functions.toNat < UInt64.size ∧
      countersBase.toNat + 8 * size.counters.toNat * size.functions.toNat < UInt64.size ∧
      namesBase.toNat + 1 * size.namesLength.toNat < UInt64.size := by
  have hfew := h.functions
  have hall := h.mul_counters_le (Nat.le_refl _)
  have hlength := h.namesLength
  rw [toNat_dataBase, toNat_countersBase, toNat_namesBase, Nat.mul_assoc,
    Nat.mul_comm size.counters.toNat]
  simp only [UInt64.size]
  omega

theorem toNat_numRecords_layout (h : size.Bounded) :
    (layout size).numRecords.toNat = size.functions.toNat := by
  have hlength : (UInt64.ofNat (64 * size.functions.toNat)).toNat = 64 * size.functions.toNat :=
    UInt64.toNat_ofNat_of_lt' (Nat.lt_of_le_of_lt (Nat.le_add_left _ _) h.sections_lt.1)
  rw [layout, Layout.ofSpans, Word.toNat_ceilDiv, hlength,
    show Width.native.recordSize.toNat = 64 from rfl]
  omega

theorem toNat_numCounters_layout (h : size.Bounded) :
    (layout size).numCounters.toNat = size.functions.toNat * size.counters.toNat := by
  have hlength : (UInt64.ofNat (8 * size.counters.toNat * size.functions.toNat)).toNat =
      8 * size.counters.toNat * size.functions.toNat :=
    UInt64.toNat_ofNat_of_lt' (Nat.lt_of_le_of_lt (Nat.le_add_left _ _) h.sections_lt.2.1)
  rw [layout, Layout.ofSpans, Word.toNat_ceilDiv, hlength, show counterSize.toNat = 8 from rfl,
    Nat.mul_assoc, Nat.mul_comm size.counters.toNat]
  omega

theorem totalLength_layout (h : size.Bounded) :
    (layout size).totalLength = .ok (.ofNat (layout size).length) := by
  have hrecords := toNat_numRecords_layout h
  have hcounters := toNat_numCounters_layout h
  have hfew := h.functions
  have hall := h.mul_counters_le (Nat.le_refl _)
  have hnames := h.namesLength
  have hpadding : (layout size).paddingAfterNames.toNat < 8 := by
    rw [layout, Layout.ofSpans, toNat_wordPadding]
    exact Nat.mod_lt _ (by decide)
  refine Layout.totalLength_eq_ok_iff.2 (UInt64.toNat_ofNat_of_lt' ?_)
  change Header.byteCount + (layout size).numRecords.toNat * Width.native.recordSize.toNat +
    (layout size).numCounters.toNat * 8 + (0 : UInt64).toNat + (0 : UInt64).toNat +
    size.namesLength.toNat + (layout size).paddingAfterNames.toNat < _
  rw [hrecords, hcounters, show Width.native.recordSize.toNat = 64 from rfl,
    show (0 : UInt64).toNat = 0 from rfl, Header.byteCount, Header.wordCount]
  simp only [UInt64.size]
  omega

theorem compute_layout (h : size.Bounded) (m : SparseMemory) :
    Layout.compute (dump size m).registry.recordSize (dump size m).registry.extents.data.length
      (dump size m).registry.extents.counters.length
      (dump size m).registry.extents.names.length = .ok (layout size) := by
  obtain ⟨hdata, hcounters, hnames⟩ := h.sections_lt
  have hdataLength : (dump size m).registry.extents.data.length =
      .ofNat (64 * size.functions.toNat) := length_stretch hdata
  have hcountersLength : (dump size m).registry.extents.counters.length =
      .ofNat (8 * size.counters.toNat * size.functions.toNat) := length_stretch hcounters
  have hnamesLength : (dump size m).registry.extents.names.length = size.namesLength := by
    refine (length_stretch hnames).trans ?_
    rw [Nat.one_mul, UInt64.ofNat_toNat]
  rw [hdataLength, hcountersLength, hnamesLength]
  change Layout.compute Width.native.recordSize _ _ _ = _
  rw [Layout.compute_of_valid (by decide), ← layout, totalLength_layout h]
  rfl

theorem header_layout (h : size.Bounded) (m : SparseMemory) :
    (layout size).header .native (dump size m).starts = header size := by
  have hrecords : (layout size).numRecords = .ofNat size.functions.toNat := by
    rw [← toNat_numRecords_layout h, UInt64.ofNat_toNat]
  have hcounters : (layout size).numCounters =
      .ofNat (size.functions.toNat * size.counters.toNat) := by
    rw [← toNat_numCounters_layout h, UInt64.ofNat_toNat]
  have hdata : (dump size m).starts.data = if size.functions.toNat = 0 then 0 else dataBase :=
    start_stretch ..
  have hbitmap : (dump size m).starts.bitmap = (dump size m).starts.data := rfl
  have hcountersStart : (dump size m).starts.counters =
      if size.functions.toNat = 0 then 0 else countersBase := start_stretch ..
  have hnames : (dump size m).starts.names =
      if size.namesLength.toNat = 0 then 0 else namesBase := start_stretch ..
  have hdelta : (dump size m).starts.counters - (dump size m).starts.data =
      if size.functions.toNat = 0 then 0 else 0xf00000 := by
    rw [hdata, hcountersStart]
    split <;> decide
  have hbitmapDelta : (dump size m).starts.bitmap - (dump size m).starts.data = 0 := by
    rw [hbitmap, UInt64.sub_self]
  rw [Layout.header, header, hrecords, hcounters, hdelta, hbitmapDelta, hnames]
  rfl

def plan (size : Size) : Plan where
  header := header size
  layout := layout size
  data := recordBytes size size.functions.toNat
  counters := wordsBytes (counterWords size size.functions.toNat)
  names := names size

theorem file_plan (h : size.Bounded) : (plan size).file = file size := by
  have hzero : zeroBytes (layout size).paddingAfterBitmap.toNat = .empty := rfl
  have hpadding : (layout size).paddingAfterNames.toNat =
      (8 - size.namesLength.toNat % 8) % 8 := toNat_wordPadding _
  rw [Plan.file, file]
  simp only [plan]
  rw [hzero, hpadding, ByteArray.append_empty, recordBytes_eq h, names_eq]
  rfl

/-- Where the memory of the specimen holds its sections, this is its plan. -/
theorem plans (h : size.Bounded) {m : SparseMemory}
    (hdata : (MemoryImage.sparse m).Holds dataBase.toNat (recordBytes size size.functions.toNat))
    (hcounters : (MemoryImage.sparse m).Holds countersBase.toNat
      (wordsBytes (counterWords size size.functions.toNat)))
    (hnames : size.namesLength ≠ 0 → (MemoryImage.sparse m).Holds namesBase.toNat (names size)) :
    (dump size m).Plans (plan size) := by
  have hfits := Layout.fits_of_compute (compute_layout h m)
  refine ⟨fun hlive => absurd hlive.1 Bool.false_ne_true, compute_layout h m,
    (header_layout h m).symm, ?_, ?_, ?_⟩
  · refine SparseMemory.read_eq_some_iff.2 ⟨?_, holds_stretch (fun _ => hdata) fun hn => ?_⟩
    · rw [plan, hfits.toNat_dataBytes, toNat_numRecords_layout h, size_recordBytes, Nat.mul_comm]
      rfl
    · rw [plan, hn]
      rfl
  · refine SparseMemory.read_eq_some_iff.2 ⟨?_, holds_stretch (fun _ => hcounters) fun hn => ?_⟩
    · rw [plan, hfits.toNat_counterBytes, toNat_numCounters_layout h, size_wordsBytes,
        length_counterWords, Nat.mul_comm]
    · rw [plan, hn]
      rfl
  · refine SparseMemory.read_eq_some_iff.2
      ⟨size_names size, holds_stretch (fun hn => ?_) fun hn => ?_⟩
    · exact hnames fun hzero => hn (congrArg UInt64.toNat hzero)
    · exact ByteArray.size_eq_zero_iff.1 ((size_names size).trans hn)

end RawProfile.Specimen

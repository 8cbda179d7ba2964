import RawProfile.Dump
import RawProfile.Proofs.Layout.Exact
import RawProfile.Proofs.Memory.View
import RawProfile.Proofs.SegmentWriter.Delivery

/-!
# Planned files

`Dump.Plans d p` spells out what it takes for `p` to be the plan of `d`: an accepted layout, the
header made from it, and three sections that memory can give. `plan_eq_ok_iff` says that planning
finds exactly these plans, and `ne_fault_of_plan` that it never computes a size that does not fit.
`Dump.Sections d header` are the bytes that a file with that header has to have, as they lie in
memory.
-/

namespace RawProfile

namespace Dump

/-- What a plan of the dump is made of. -/
structure Plans (d : Dump) (p : Plan) : Prop where
  native : ¬ (d.image.isLive = true ∧ d.width ≠ .native)
  layout : Layout.compute d.registry.recordSize d.registry.extents.data.length
    d.registry.extents.counters.length d.registry.extents.names.length = .ok p.layout
  header : p.header = p.layout.header d.width d.starts
  data : d.image.read d.starts.data (p.layout.numRecords * p.layout.recordSize) = some p.data
  counters : d.image.read d.starts.counters (p.layout.numCounters * counterSize) = some p.counters
  names : d.image.read d.starts.names p.layout.namesSize = some p.names

variable {d : Dump} {p : Plan} {l : Layout}

theorem layout_eq_ok_iff : d.layout = .ok l ↔ ¬ (d.image.isLive = true ∧ d.width ≠ .native) ∧
    Layout.compute d.registry.recordSize d.registry.extents.data.length
      d.registry.extents.counters.length d.registry.extents.names.length = .ok l := by
  unfold layout
  split
  · next h => exact ⟨fun h' => (by cases h'), fun h' => absurd h h'.1⟩
  · next h => exact mapError_eq_ok_iff.trans ⟨fun h' => ⟨h, h'⟩, fun h' => h'.2⟩

theorem fits_of_layout (h : d.layout = .ok l) : l.Fits d.registry.recordSize
    d.registry.extents.data.length d.registry.extents.counters.length
    d.registry.extents.names.length :=
  Layout.fits_of_compute (layout_eq_ok_iff.1 h).2

theorem readSection_eq_ok_iff {which : Section} {start length : UInt64} {bytes : ByteArray} :
    d.readSection which start length = .ok bytes ↔ d.image.read start length = some bytes := by
  unfold readSection
  cases d.image.read start length <;> simp

theorem resolve_eq (h : d.layout = .ok l) : d.resolve l = (do
    let data ← d.readSection .data d.starts.data (l.numRecords * l.recordSize)
    let counters ← d.readSection .counters d.starts.counters (l.numCounters * counterSize)
    let names ← d.readSection .names d.starts.names l.namesSize
    return { header := l.header d.width d.starts, layout := l, data, counters, names }) := by
  have hfits := fits_of_layout h
  rw [resolve, hfits.dataBytes, hfits.counterBytes]
  rfl

theorem plan_of_layout (h : d.layout = .ok l) : d.plan.value = d.resolve l := by
  rw [plan, h]

theorem plan_of_layout_error {e : DumpError} (h : d.layout = .error e) :
    d.plan.value = .error e := by
  rw [plan, h]
  rfl

/-- Planning finds the plans, and nothing else. -/
theorem plan_eq_ok_iff : d.plan.value = .ok p ↔ d.Plans p := by
  constructor
  · intro h
    cases hl : d.layout with
    | error e =>
      rw [plan_of_layout_error hl] at h
      cases h
    | ok l =>
      rw [plan_of_layout hl, resolve_eq hl] at h
      simp only [bind_eq_ok_iff, readSection_eq_ok_iff] at h
      obtain ⟨data, hdata, counters, hcounters, names, hnames, hp⟩ := h
      cases hp
      obtain ⟨hnative, hcompute⟩ := layout_eq_ok_iff.1 hl
      exact ⟨hnative, hcompute, rfl, hdata, hcounters, hnames⟩
  · intro h
    have hl : d.layout = .ok p.layout := layout_eq_ok_iff.2 ⟨h.native, h.layout⟩
    rw [plan_of_layout hl, resolve_eq hl]
    simp only [bind_eq_ok_iff, readSection_eq_ok_iff]
    refine ⟨p.data, h.data, p.counters, h.counters, p.names, h.names, ?_⟩
    rw [← h.header]
    rfl

theorem layout_ne_fault (d : Dump) (f : WordFault) : d.layout ≠ .error (.fault f) := by
  unfold layout
  split
  · simp
  · intro h
    obtain ⟨_, _, h⟩ := mapError_eq_error_iff.1 h
    cases h

theorem readSection_ne_fault (d : Dump) (which : Section) (start length : UInt64) (f : WordFault) :
    d.readSection which start length ≠ .error (.fault f) := by
  unfold readSection
  split <;> simp

/-- A plan that fails does so for a reason that can be reported. -/
theorem ne_fault_of_plan {e : DumpError} (h : d.plan.value = .error e) (f : WordFault) :
    e ≠ .fault f := by
  rintro rfl
  cases hl : d.layout with
  | error e =>
    rw [plan_of_layout_error hl] at h
    cases h
    exact layout_ne_fault d f hl
  | ok l =>
    rw [plan_of_layout hl, resolve_eq hl] at h
    simp only [bind_eq_error_iff, readSection_ne_fault, false_or] at h
    obtain ⟨_, _, _, _, _, _, h⟩ := h
    cases h

/-- Of a registry, a plan sees the record size and the spans. -/
theorem plan_congr (d : Dump) {r r' : Registry} (hsize : r.recordSize = r'.recordSize)
    (hextents : r.extents = r'.extents) :
    ({ d with registry := r } : Dump).plan = ({ d with registry := r' } : Dump).plan := by
  have hstarts : ({ d with registry := r } : Dump).starts =
      ({ d with registry := r' } : Dump).starts := by
    simp only [starts, hextents]
  have hlayout : ({ d with registry := r } : Dump).layout =
      ({ d with registry := r' } : Dump).layout := by
    simp only [layout, hsize, hextents]
  unfold plan
  rw [hlayout]
  simp only [resolve, hstarts, readSection]

/-! ## The sections of a plan -/

/-- The bytes that the sections of a file with the given header have in memory. -/
structure Sections (d : Dump) (header : Header) where
  data : ByteArray
  counters : ByteArray
  names : ByteArray
  size_data : data.size = header.numRecords.toNat * d.registry.recordSize.toNat
  size_counters : counters.size = header.numCounters.toNat * 8
  size_names : names.size = header.namesSize.toNat
  data_held : d.image.Holds d.registry.extents.data.start.toNat data
  counters_held : d.image.Holds d.registry.extents.counters.start.toNat counters
  names_held : d.image.Holds d.registry.extents.names.start.toNat names

/-- The file of a header, its sections, and what comes after them. -/
def Sections.file {header : Header} (s : d.Sections header) (rest : ByteArray) : ByteArray :=
  header.encode ++ s.data ++ s.counters ++ s.names ++ rest

theorem Sections.eq {header : Header} (s s' : d.Sections header) :
    s.data = s'.data ∧ s.counters = s'.counters ∧ s.names = s'.names :=
  ⟨s.data_held.eq s'.data_held (s.size_data.trans s'.size_data.symm),
    s.counters_held.eq s'.counters_held (s.size_counters.trans s'.size_counters.symm),
    s.names_held.eq s'.names_held (s.size_names.trans s'.size_names.symm)⟩

namespace Plans

theorem fits (h : d.Plans p) : p.layout.Fits d.registry.recordSize d.registry.extents.data.length
    d.registry.extents.counters.length d.registry.extents.names.length :=
  Layout.fits_of_compute h.layout

def sections (h : d.Plans p) : d.Sections p.header where
  data := p.data
  counters := p.counters
  names := p.names
  size_data := by
    rw [MemoryImage.size_of_read h.data, h.fits.toNat_dataBytes, h.header]
    rfl
  size_counters := by
    rw [MemoryImage.size_of_read h.counters, h.fits.toNat_counterBytes, h.header]
    rfl
  size_names := by
    rw [MemoryImage.size_of_read h.names, h.header]
    rfl
  data_held := MemoryImage.holds_of_read h.data
  counters_held := MemoryImage.holds_of_read h.counters
  names_held := MemoryImage.holds_of_read h.names

theorem length_eq (h : d.Plans p) : p.layout.length =
    Header.byteCount + p.data.size + p.counters.size + p.names.size +
      p.layout.paddingAfterNames.toNat := by
  have hdata : p.data.size = _ := h.sections.size_data
  have hcounters : p.counters.size = _ := h.sections.size_counters
  have hnames : p.names.size = _ := h.sections.size_names
  rw [h.fits.length_eq, hdata, hcounters, hnames, h.header, Layout.header, h.fits.namesSize]

theorem totalLength_eq (h : d.Plans p) : p.totalLength = p.layout.length := by
  rw [h.length_eq, Plan.totalLength, h.fits.numBitmapBytes, h.fits.paddingAfterBitmap]
  rfl

end Plans

end Dump

/-! ## The strings of a plan -/

namespace Plan

/-- The strings that the file of a plan consists of, in order, each with the number of its segment.
The bitmap, segments 3 and 4, has none. -/
def strings (p : Plan) : List (Nat × ByteArray) :=
  [(0, p.header.encode), (1, p.data), (2, p.counters), (5, p.names),
    (6, zeroBytes p.layout.paddingAfterNames.toNat)]

/-- The writes that the file of a plan takes: empty strings are left out. -/
def writes (p : Plan) : List (Nat × ByteArray) := p.strings.filter fun s => s.2.size ≠ 0

def chunks (p : Plan) : List (Nat × ByteArray) :=
  p.segments.zipIdx.flatMap fun ((_, segment), i) => segment.chunks.map (i, ·)

theorem size_of_mem_writes {p : Plan} {s : Nat × ByteArray} (h : s ∈ p.writes) : s.2.size ≠ 0 := by
  simpa using (List.mem_filter.1 h).2

theorem joined_filter (strings : List (Nat × ByteArray)) :
    joined ((strings.filter fun s => s.2.size ≠ 0).map (·.2)) = joined (strings.map (·.2)) := by
  induction strings with
  | nil => rfl
  | cons s strings ih =>
    rw [List.filter_cons]
    split
    · change s.2 ++ joined _ = s.2 ++ joined _
      rw [ih]
    · next h =>
      have hempty : s.2 = .empty := ByteArray.size_eq_zero_iff.1 (by simpa using h)
      change _ = s.2 ++ joined _
      rw [ih, hempty, ByteArray.empty_append]

theorem joined_writes (p : Plan) : joined (p.writes.map (·.2)) =
    p.header.encode ++ p.data ++ p.counters ++ p.names ++
      zeroBytes p.layout.paddingAfterNames.toNat := by
  rw [writes, joined_filter]
  simp only [strings, List.map_cons, List.map_nil, joined, List.foldr_cons, List.foldr_nil,
    ByteArray.append_assoc, ByteArray.append_empty]

theorem numbered_chunks_bytes (segment : Nat) (b : ByteArray) :
    (Segment.bytes b).chunks.map (segment, ·) = [(segment, b)].filter fun s => s.2.size ≠ 0 := by
  rw [Segment.chunks]
  by_cases h : b.size = 0
  · rw [if_pos h, List.filter_cons_of_neg (by simpa using h)]
    rfl
  · rw [if_neg h, List.filter_cons_of_pos (by simpa using h)]
    rfl

end Plan

theorem Dump.Plans.chunksLength_writes {d : Dump} {p : Plan} (h : d.Plans p) :
    chunksLength p.writes = p.layout.length := by
  rw [← size_joined, Plan.joined_writes, h.length_eq]
  simp only [ByteArray.size_append, Header.size_encode, size_zeroBytes]

/-- The chunks of the segments are the writes. -/
theorem Dump.Plans.chunks_eq {d : Dump} {p : Plan} (h : d.Plans p) : p.chunks = p.writes := by
  have hbitmap : (Segment.zeros p.layout.paddingAfterBitmap.toNat).chunks = [] := by
    rw [h.fits.paddingAfterBitmap]
    rfl
  have hpadding := Segment.chunks_zeros_of_lt h.fits.padding_lt
  have hstrings : p.strings = [(0, p.header.encode)] ++ ([(1, p.data)] ++ ([(2, p.counters)] ++
      ([(5, p.names)] ++ [(6, zeroBytes p.layout.paddingAfterNames.toNat)]))) := rfl
  rw [Plan.writes, hstrings]
  simp only [List.filter_append, ← Plan.numbered_chunks_bytes]
  simp only [Plan.chunks, Plan.segments, List.zipIdx_cons, List.zipIdx_nil, List.flatMap_cons,
    List.flatMap_nil, hbitmap, hpadding, List.append_nil, List.map_nil, List.nil_append,
    Nat.reduceAdd, show (Segment.bytes .empty).chunks = [] from rfl]

end RawProfile

import RawProfile.Proofs.Dump.File
import RawProfile.Proofs.Registry.Roster

/-!
# Looking things up in a dumped file

A reader who has the header of a file works out where a section starts (`Header.place`), and where
in the section something lies from its address. `Dump.Shows` is that the reader finds there what
memory has at the address, and `roster_in_file` that this works for everything on the roster of the
registry.
-/

namespace RawProfile

/-! ## Sections in a file -/

namespace Header

/-- Where in the file a section starts. -/
def place (h : Header) (recordSize : UInt64) : Section → Nat
  | .data => byteCount
  | .counters => byteCount + h.numRecords.toNat * recordSize.toNat
  | .names => byteCount + h.numRecords.toNat * recordSize.toNat + h.numCounters.toNat * 8

def sectionSize (h : Header) (recordSize : UInt64) : Section → Nat
  | .data => h.numRecords.toNat * recordSize.toNat
  | .counters => h.numCounters.toNat * 8
  | .names => h.namesSize.toNat

end Header

def Extents.span (e : Extents) : Section → Span
  | .data => e.data
  | .counters => e.counters
  | .names => e.names

namespace Dump

/-- At an offset in a section, the file has the bytes that memory has at an address. -/
structure Shows (d : Dump) (header : Header) (file : ByteArray) (which : Section)
    (offset address length : Nat) : Prop where
  in_section : offset + length ≤ header.sectionSize d.registry.recordSize which
  in_file : header.place d.registry.recordSize which +
    header.sectionSize d.registry.recordSize which ≤ file.size
  held : d.image.Holds address (file.extract
    (header.place d.registry.recordSize which + offset)
    (header.place d.registry.recordSize which + offset + length))

variable {d : Dump} {p : Plan}

def Sections.bytes {header : Header} (s : d.Sections header) : Section → ByteArray
  | .data => s.data
  | .counters => s.counters
  | .names => s.names

theorem Sections.size_bytes {header : Header} (s : d.Sections header) (which : Section) :
    (s.bytes which).size = header.sectionSize d.registry.recordSize which := by
  cases which with
  | data => exact s.size_data
  | counters => exact s.size_counters
  | names => exact s.size_names

theorem Sections.held {header : Header} (s : d.Sections header) (which : Section) :
    d.image.Holds (d.registry.extents.span which).start.toNat (s.bytes which) := by
  cases which with
  | data => exact s.data_held
  | counters => exact s.counters_held
  | names => exact s.names_held

theorem Sections.file_eq {header : Header} (s : d.Sections header) (rest : ByteArray)
    (which : Section) : ∃ before after, s.file rest = before ++ s.bytes which ++ after ∧
      before.size = header.place d.registry.recordSize which := by
  cases which with
  | data =>
    refine ⟨header.encode, s.counters ++ s.names ++ rest, ?_, header.size_encode⟩
    simp only [file, bytes, ByteArray.append_assoc]
  | counters =>
    refine ⟨header.encode ++ s.data, s.names ++ rest, ?_, ?_⟩
    · simp only [file, bytes, ByteArray.append_assoc]
    · rw [ByteArray.size_append, header.size_encode, s.size_data]
      rfl
  | names =>
    refine ⟨header.encode ++ s.data ++ s.counters, rest, rfl, ?_⟩
    rw [ByteArray.size_append, ByteArray.size_append, header.size_encode, s.size_data,
      s.size_counters]
    rfl

theorem extract_middle {before bytes after : ByteArray} {offset length : Nat}
    (h : offset + length ≤ bytes.size) :
    (before ++ bytes ++ after).extract (before.size + offset) (before.size + offset + length) =
      bytes.extract offset (offset + length) := by
  have hbefore : before.extract (before.size + offset) (before.size + offset + length) = .empty :=
    ByteArray.extract_eq_empty_iff.2 (by omega)
  have hafter : after.extract (offset - bytes.size) (offset + length - bytes.size) = .empty :=
    ByteArray.extract_eq_empty_iff.2 (by omega)
  rw [ByteArray.append_assoc, ByteArray.extract_append, hbefore, ByteArray.empty_append,
    Nat.add_assoc, Nat.add_sub_cancel_left, Nat.add_sub_cancel_left, ByteArray.extract_append,
    hafter, ByteArray.append_empty]

theorem Sections.shows {header : Header} (s : d.Sections header) (rest : ByteArray)
    (which : Section) (offset length : Nat)
    (h : offset + length ≤ header.sectionSize d.registry.recordSize which) :
    d.Shows header (s.file rest) which offset
      ((d.registry.extents.span which).start.toNat + offset) length := by
  obtain ⟨before, after, hfile, hplace⟩ := s.file_eq rest which
  have hsize := s.size_bytes which
  refine ⟨h, ?_, ?_⟩
  · rw [hfile, ByteArray.size_append, ByteArray.size_append, hplace, hsize]
    exact Nat.le_add_right _ _
  · rw [hfile, ← hplace, extract_middle (by omega)]
    exact (s.held which).extract offset length

namespace Plans

theorem length_span_le (h : d.Plans p) (which : Section) :
    (d.registry.extents.span which).length.toNat ≤
      p.header.sectionSize d.registry.recordSize which := by
  rw [h.header]
  cases which with
  | data => exact h.fits.data_le
  | counters => exact h.fits.counters_le
  | names => exact Nat.le_of_eq (congrArg UInt64.toNat h.fits.namesSize.symm)

/-- What lies within the span of a section is shown by the file, as far from the start of the
section as it lies from the start of the span. -/
theorem shows_within (h : d.Plans p) (rest : ByteArray) {which : Section} {start length : UInt64}
    (hwithin : (Span.ofLength start length).Within (d.registry.extents.span which))
    (htop : start.toNat + length.toNat < UInt64.size) :
    d.Shows p.header (h.sections.file rest) which
      (start - (d.registry.extents.span which).start).toNat start.toNat length.toNat := by
  obtain ⟨hstart, hlength⟩ := hwithin.le_length htop
  have hroom := h.length_span_le which
  have hoffset := UInt64.toNat_sub_of_le _ _ hstart
  have haddress : (d.registry.extents.span which).start.toNat +
      (start - (d.registry.extents.span which).start).toNat = start.toNat := by
    have := UInt64.le_iff_toNat_le.1 hstart
    omega
  have hshows := h.sections.shows rest which
    (start - (d.registry.extents.span which).start).toNat length.toNat (by omega)
  rwa [haddress] at hshows

/-! ## Everything on the roster -/

variable {roster : Roster} {site : RecordSite} {blob : Blob}

theorem shows_record (h : d.Plans p) (rest : ByteArray) (hcovers : d.registry.Covers roster)
    (hsite : site ∈ roster.sites)
    (htop : site.address.toNat + d.registry.recordSize.toNat < UInt64.size) :
    d.Shows p.header (h.sections.file rest) .data
      (site.address - d.registry.extents.data.start).toNat site.address.toNat
      d.registry.recordSize.toNat :=
  h.shows_within rest (hcovers.records site hsite).within htop

theorem countersDelta_eq (h : d.Plans p) : p.header.countersDelta =
    d.registry.extents.counters.start - d.registry.extents.data.start := by
  rw [h.header]
  rfl

theorem namesStart_eq (h : d.Plans p) : p.header.namesStart = d.registry.extents.names.start := by
  rw [h.header]
  rfl

/-- The counters of a record are found by the distances that the record and the header keep. -/
theorem shows_counters (h : d.Plans p) (rest : ByteArray) (hcovers : d.registry.Covers roster)
    (hsite : site ∈ roster.sites)
    (htop : site.counterBase.toNat + 8 * site.numCounters.toNat < UInt64.size) :
    d.Shows p.header (h.sections.file rest) .counters
      (site.address - d.registry.extents.data.start + site.counterOffset.toUInt64 -
        p.header.countersDelta).toNat
      site.counterBase.toNat (8 * site.numCounters.toNat) := by
  have hoffset : site.address - d.registry.extents.data.start + site.counterOffset.toUInt64 -
      p.header.countersDelta = site.counterBase - d.registry.extents.counters.start := by
    rw [h.countersDelta_eq, RecordSite.counterBase]
    grind
  rw [hoffset]
  rw [← RecordSite.toNat_counters_length] at htop ⊢
  exact h.shows_within rest (hcovers.counters site hsite).within htop

theorem shows_blob (h : d.Plans p) (rest : ByteArray) (hcovers : d.registry.Covers roster)
    (hblob : blob ∈ roster.blobs) (htop : blob.start.toNat + blob.length.toNat < UInt64.size) :
    d.Shows p.header (h.sections.file rest) .names (blob.start - p.header.namesStart).toNat
      blob.start.toNat blob.length.toNat := by
  rw [h.namesStart_eq]
  exact h.shows_within rest (hcovers.blobs blob hblob).within htop

end Plans

/-- Whatever was registered, in whatever order, a reader finds it in the file by its address. -/
theorem roster_in_file {σ : Type} [Transport σ] (recordSize : UInt64) (steps : List Registry.Step)
    (d : Dump) (hregistry : d.registry = (Registry.ofRecordSize recordSize).replay steps)
    (fileName : String) (t : σ) (summary : Summary)
    (h : (d.writeTo fileName t).value.1 = .ok summary) :
    let roster := Roster.ofSteps steps
    let extents := d.registry.extents
    let header := summary.header
    let file := written (d.writeTo fileName t).calls
    (∀ site ∈ roster.sites, site.address.toNat + recordSize.toNat < UInt64.size →
      d.Shows header file .data (site.address - extents.data.start).toNat site.address.toNat
        recordSize.toNat) ∧
    (∀ site ∈ roster.sites, site.counterBase.toNat + 8 * site.numCounters.toNat < UInt64.size →
      d.Shows header file .counters
        (site.address - extents.data.start + site.counterOffset.toUInt64 -
          header.countersDelta).toNat
        site.counterBase.toNat (8 * site.numCounters.toNat)) ∧
    (∀ blob ∈ roster.blobs, blob.start.toNat + blob.length.toNat < UInt64.size →
      d.Shows header file .names (blob.start - header.namesStart).toNat blob.start.toNat
        blob.length.toNat) ∧
    ((extents.data.start.toNat : Int) + header.countersOffset.toInt) % UInt64.size =
      extents.counters.start.toNat := by
  obtain ⟨p, hp, rfl, hfile⟩ := written_writeTo h
  have hcovers : d.registry.Covers (.ofSteps steps) := by
    rw [hregistry]
    exact Registry.covers_replay recordSize steps
  have hsize : recordSize = d.registry.recordSize := by
    rw [hregistry, Registry.recordSize_replay]
    rfl
  rw [hfile, hsize]
  intro roster extents header file
  refine ⟨fun site hsite htop => ?_, fun site hsite htop => ?_, fun blob hblob htop => ?_, ?_⟩
  · exact hp.shows_record _ hcovers hsite htop
  · exact hp.shows_counters _ hcovers hsite htop
  · exact hp.shows_blob _ hcovers hblob htop
  · rw [Header.countersOffset, show header.countersDelta = _ from hp.countersDelta_eq]
    exact add_toInt64_emod _ _

/-- The upper of two records comes first; the counters lie below the records. -/
def scatteredSteps : List Registry.Step :=
  [.registerData ⟨0x2010, -0x1008, 1⟩, .registerNames 0x3000 3, .registerData ⟨0x2000, -0x1000, 1⟩]

def scattered : Dump where
  registry := (Registry.ofRecordSize 16).replay scatteredSteps
  image := .live ⟨UInt64.toUInt8⟩

def scatteredHeader : Header := (Layout.ofSpans 16 32 16 3).header .native scattered.starts

theorem roster_in_file_scattered : ∃ file,
    scattered.Shows scatteredHeader file .counters 8 0x1008 8 ∧
      scattered.Shows scatteredHeader file .names 0 0x3000 3 := by
  have h : (scattered.writeTo "scattered" ({} : ScriptedTransport)).value.1 =
      .ok ⟨scatteredHeader, 168⟩ := by decide +kernel
  obtain ⟨-, hcounters, hnames, -⟩ := roster_in_file 16 scatteredSteps scattered rfl "scattered"
    ({} : ScriptedTransport) ⟨scatteredHeader, 168⟩ h
  exact ⟨_, hcounters ⟨0x2010, -0x1008, 1⟩ (by decide) (by decide),
    hnames ⟨0x3000, 3⟩ (by decide) (by decide)⟩

end Dump

end RawProfile

import RawProfile.Proofs.Dump.Lookup
import RawProfile.Proofs.Dump.Outside
import RawProfile.Proofs.FunctionRecord.Codec
import RawProfile.Proofs.Hooks.Contract

/-!
# Records in memory and in dumped files

`MemoryImage.recordAt?` is the record that can be read at an address. It is the one that was written
there, whatever was written elsewhere since (`SparseMemory.recordAt?_replay`), in a running process
it is the one that a registration looks at (`Hook.registers_recordAt?`), and a reader of a dumped
file decodes it from its place in the records section (`Plans.recordAt?_in_file`).
-/

namespace RawProfile

/-- The record that can be read at an address. -/
def MemoryImage.recordAt? (image : MemoryImage) (address : UInt64) : Option FunctionRecord :=
  (image.read address (.ofNat FunctionRecord.byteCount)).bind FunctionRecord.decode?

namespace MemoryImage

variable {image : MemoryImage} {address : UInt64} {r : FunctionRecord}

theorem recordAt?_eq_some_iff : image.recordAt? address = some r ↔
    image.read address (.ofNat FunctionRecord.byteCount) = some r.encode := by
  rw [recordAt?, Option.bind_eq_some_iff]
  constructor
  · rintro ⟨bytes, hread, hdecode⟩
    rw [hread, FunctionRecord.decode?_eq_some_iff.1 hdecode]
  · intro hread
    exact ⟨_, hread, FunctionRecord.decode?_eq_some_iff.2 rfl⟩

theorem exists_recordAt? (h : (image.read address (.ofNat FunctionRecord.byteCount)).isSome) :
    ∃ r, image.recordAt? address = some r := by
  obtain ⟨bytes, hread⟩ := Option.isSome_iff_exists.1 h
  obtain ⟨r, hdecode⟩ := FunctionRecord.exists_decode?_iff.2 (size_of_read hread)
  exact ⟨r, by rw [recordAt?, hread, Option.bind_some, hdecode]⟩

theorem isSome_read_within {start length : UInt64} {address n : UInt64}
    (h : (image.read start length).isSome) (hstart : start.toNat ≤ address.toNat)
    (hend : address.toNat + n.toNat ≤ start.toNat + length.toNat) :
    (image.read address n).isSome := by
  cases image with
  | sparse m =>
    refine SparseMemory.isSome_read_iff.2 fun a hfrom hto => ?_
    exact SparseMemory.isSome_read_iff.1 h a (by omega) (by omega)
  | live m =>
    refine ProcessMemory.isSome_read_iff.2 ?_
    have hrange := ProcessMemory.isSome_read_iff.1 h
    omega

end MemoryImage

/-! ## Sparse memory -/

namespace SparseMemory

variable {m m' : SparseMemory} {address : UInt64} {r : FunctionRecord} {later : List Write}

theorem recordAt?_eq_some_iff : (MemoryImage.sparse m).recordAt? address = some r ↔
    (MemoryImage.sparse m).Holds address.toNat r.encode :=
  MemoryImage.recordAt?_eq_some_iff.trans
    (read_eq_some_iff.trans (and_iff_right r.size_encode))

theorem writeRecord_cases (m : SparseMemory) (address : UInt64) (r : FunctionRecord) :
    (2 ^ 64 ≤ address.toNat + 64 ∧ m.writeRecord address r = .error .addition) ∨
      (address.toNat + 64 < 2 ^ 64 ∧ ∃ m', m.writeRecord address r = .ok m') := by
  have hsize : r.encode.size = 64 := r.size_encode
  by_cases hfits : address.toNat + 64 < 2 ^ 64
  · refine .inr ⟨hfits, m.exists_write address r.encode ?_⟩
    rw [hsize]
    exact hfits
  · refine .inl ⟨Nat.not_lt.1 hfits, write_eq_error_iff.2 ⟨?_, rfl⟩⟩
    rw [hsize]
    exact Nat.not_lt.1 hfits

/-- What memory holds is still there after writes elsewhere. -/
theorem holds_replay {start : Nat} {bytes : ByteArray}
    (h : (MemoryImage.sparse m).Holds start bytes)
    (houtside : ∀ w ∈ later, ∀ a, w.Covers a → a < start ∨ start + bytes.size ≤ a) :
    (MemoryImage.sparse (m.replay later)).Holds start bytes := by
  intro i hi
  refine (at?_replay_of_not_covers (fun w hw hcovers => ?_) m).trans (h i hi)
  have := houtside w hw _ hcovers
  omega

theorem recordAt?_replay (h : m.writeRecord address r = .ok m')
    (houtside : ∀ w ∈ later, ∀ a, w.Covers a → a < address.toNat ∨ address.toNat + 64 ≤ a) :
    (MemoryImage.sparse (m'.replay later)).recordAt? address = some r := by
  rw [recordAt?_eq_some_iff]
  refine holds_replay (holds_write h) ?_
  rwa [r.size_encode]

end SparseMemory

/-! ## Process memory -/

namespace ProcessMemory

variable {m m' : ProcessMemory} {address : UInt64} {r : FunctionRecord}

theorem eq_recordAt (h : (MemoryImage.live m).recordAt? address = some r) :
    r = m.recordAt address := by
  have hbytes := eq_bytes_of_read (MemoryImage.recordAt?_eq_some_iff.1 h)
  rw [recordAt, ← hbytes, FunctionRecord.encode, List.data_toByteArray,
    FunctionRecord.ofBytes_bytes]

theorem recordAt_congr
    (h : ∀ i < 64, m.byteAt (address + .ofNat i) = m'.byteAt (address + .ofNat i)) :
    m.recordAt address = m'.recordAt address := by
  have hbytes : m.bytes address (.ofNat FunctionRecord.byteCount) =
      m'.bytes address (.ofNat FunctionRecord.byteCount) :=
    congrArg List.toByteArray (List.map_congr_left fun i hi => h i (List.mem_range.1 hi))
  rw [recordAt, recordAt, hbytes]

theorem address_ne_zero (h : (MemoryImage.live m).recordAt? address = some r) : address ≠ 0 := by
  have hread := MemoryImage.recordAt?_eq_some_iff.1 h
  have hrange := isSome_read_iff.1 (Option.isSome_iff_exists.2 ⟨_, hread⟩)
  rintro rfl
  rcases hrange with hlength | ⟨hstart, -⟩
  · exact absurd hlength (by decide)
  · exact absurd hstart (by decide)

end ProcessMemory

/-- A hook registers the record that lies at the address, and this is still the one that can be read
there when the file is written, if its bytes have stayed. -/
theorem Hook.registers_recordAt? {σ : Type} [Transport σ] (p : Program σ)
    {memory later : ProcessMemory} {address : UInt64} {r : FunctionRecord}
    (hsentinel : p.runtime.session.registry.sentinel ≠ some address)
    (hsame : ∀ i < 64, memory.byteAt (address + .ofNat i) = later.byteAt (address + .ofNat i))
    (h : (MemoryImage.live later).recordAt? address = some r) :
    (p.call memory (.registerFunction address)).value.2.runtime.session =
      (p.runtime.session.registerData (.ofRecord address r)).value.2 := by
  obtain ⟨-, -, -, -, hregister⟩ := contract_registerFunction p memory address
  have hafter := hregister (ProcessMemory.address_ne_zero h) hsentinel
  rw [ProcessMemory.recordAt_congr hsame, ← ProcessMemory.eq_recordAt h] at hafter
  exact congrArg Runtime.session hafter

/-! ## Dumped files -/

namespace Dump

variable {d : Dump} {p : Plan} {roster : Roster} {site : RecordSite}

theorem Plans.isSome_read_record (h : d.Plans p) (hcovers : d.registry.Covers roster)
    (hsite : site ∈ roster.sites)
    (htop : site.address.toNat + d.registry.recordSize.toNat < UInt64.size) :
    (d.image.read site.address d.registry.recordSize).isSome := by
  have hwithin : (Span.ofLength site.address d.registry.recordSize).Within
      d.registry.extents.data := (hcovers.records site hsite).within
  obtain ⟨hstart, hend⟩ := hwithin.le_length htop
  have hroom : d.registry.extents.data.length.toNat ≤
      p.header.numRecords.toNat * d.registry.recordSize.toNat := h.length_span_le .data
  have hdata : p.header.numRecords.toNat * d.registry.recordSize.toNat =
      (p.layout.numRecords * p.layout.recordSize).toNat :=
    h.sections.size_data.symm.trans (MemoryImage.size_of_read h.data)
  have hread : (d.image.read d.registry.extents.data.start
      (p.layout.numRecords * p.layout.recordSize)).isSome :=
    Option.isSome_iff_exists.2 ⟨_, h.data⟩
  rw [UInt64.le_iff_toNat_le] at hstart
  exact MemoryImage.isSome_read_within hread hstart (by omega)

/-- A record that is on the roster stands in the file as it stands in memory. -/
theorem Plans.recordAt?_in_file (h : d.Plans p) (rest : ByteArray)
    (hsize : d.registry.recordSize = 64) (hcovers : d.registry.Covers roster)
    (hsite : site ∈ roster.sites) (htop : site.address.toNat + 64 < 2 ^ 64) :
    let place := 112 + (site.address - d.registry.extents.data.start).toNat
    ∃ r, d.image.recordAt? site.address = some r ∧
      FunctionRecord.decode? ((h.sections.file rest).extract place (place + 64)) = some r := by
  intro place
  have hlength : d.registry.recordSize.toNat = 64 := by
    rw [hsize]
    rfl
  have hbelow : site.address.toNat + d.registry.recordSize.toNat < UInt64.size := by
    rw [hlength]
    exact htop
  have hread := h.isSome_read_record hcovers hsite hbelow
  rw [hsize] at hread
  obtain ⟨r, hr⟩ := MemoryImage.exists_recordAt? hread
  refine ⟨r, hr, FunctionRecord.decode?_eq_some_iff.2 ?_⟩
  have hshows := h.shows_record rest hcovers hsite hbelow
  rw [hlength] at hshows
  have hin := hshows.in_section
  have hfile : 112 + p.header.sectionSize d.registry.recordSize .data ≤
      (h.sections.file rest).size := hshows.in_file
  refine (MemoryImage.holds_of_read (MemoryImage.recordAt?_eq_some_iff.1 hr)).eq hshows.held ?_
  rw [show r.encode.size = 64 from r.size_encode, ByteArray.size_extract]
  omega

/-- A record and its description agree wherever the record goes: in its own 64 bytes, in memory after
writes elsewhere, in what a hook registers, and in the file of a dump, where a reader finds it by the
distance of its address. -/
theorem records_read_back :
    (∀ r : FunctionRecord, r.encode.size = 64 ∧
      (∀ (f : FunctionRecord.Field) (j : Nat), j < f.size →
        r.encode.data[f.offset + j]? = some (UInt8.ofNat (f.get r / 256 ^ j))) ∧
      ∀ bytes, FunctionRecord.decode? bytes = some r ↔ r.encode = bytes) ∧
    (∀ i < 64, ∃! f : FunctionRecord.Field, f.offset ≤ i ∧ i < f.offset + f.size) ∧
    (∀ bytes : ByteArray, (∃! r : FunctionRecord, r.encode = bytes) ↔ bytes.size = 64) ∧
    (∀ nameRef funcHash counterOffset numCounters,
      let r := FunctionRecord.ofOffset nameRef funcHash counterOffset numCounters
      r.counterOffset = counterOffset ∧ ∀ i, 60 ≤ i → i < 64 → r.encode.data[i]? = some 0) ∧
    (∀ (address : UInt64) (r : FunctionRecord),
      let site := RecordSite.ofRecord address r
      site = ⟨address, r.counterPtr.toInt64, r.numCounters⟩ ∧
      site.counterBase.toNat = (address.toNat + r.counterPtr.toNat) % 2 ^ 64 ∧
      (site.counterBase.toNat : Int) =
        (address.toNat + r.counterPtr.toInt64.toInt) % 2 ^ 64) ∧
    (∀ (m : SparseMemory) (address : UInt64) (r : FunctionRecord),
      (2 ^ 64 ≤ address.toNat + 64 ∧ m.writeRecord address r = .error .addition) ∨
      (address.toNat + 64 < 2 ^ 64 ∧ ∃ m', m.writeRecord address r = .ok m' ∧
        ∀ later : List SparseMemory.Write,
          (∀ w ∈ later, ∀ a, w.Covers a → a < address.toNat ∨ address.toNat + 64 ≤ a) →
          (MemoryImage.sparse (m'.replay later)).recordAt? address = some r)) ∧
    (∀ {σ : Type} [Transport σ] (p : Program σ) (memory later : ProcessMemory) (address : UInt64)
      (r : FunctionRecord), p.runtime.session.registry.sentinel ≠ some address →
      (∀ i < 64, memory.byteAt (address + .ofNat i) = later.byteAt (address + .ofNat i)) →
      (MemoryImage.live later).recordAt? address = some r →
      (p.call memory (.registerFunction address)).value.2.runtime.session =
        (p.runtime.session.registerData (.ofRecord address r)).value.2) ∧
    (∀ {σ : Type} [Transport σ] (steps : List Registry.Step) (d : Dump) (fileName : String) (t : σ)
      (summary : Summary), d.registry = (Registry.ofRecordSize 64).replay steps →
      (d.writeTo fileName t).value.1 = .ok summary →
      ∀ site ∈ (Roster.ofSteps steps).sites, site.address.toNat + 64 < 2 ^ 64 →
        let place := 112 + (site.address - d.registry.extents.data.start).toNat
        ∃ r, d.image.recordAt? site.address = some r ∧
          FunctionRecord.decode?
            ((written (d.writeTo fileName t).calls).extract place (place + 64)) = some r) := by
  refine ⟨fun r => ⟨r.size_encode, fun f j hj => r.getElem?_encode f hj, fun bytes =>
    FunctionRecord.decode?_eq_some_iff⟩, fun i hi => FunctionRecord.existsUnique_field hi,
    fun bytes => FunctionRecord.existsUnique_encode_iff, ?_, ?_, ?_, ?_, ?_⟩
  · intro nameRef funcHash counterOffset numCounters
    exact ⟨FunctionRecord.counterOffset_ofOffset .., fun i hstart hend =>
      FunctionRecord.getElem?_encode_ofOffset nameRef funcHash counterOffset numCounters hstart hend⟩
  · intro address r
    refine ⟨rfl, ?_, toNat_add_toUInt64 address r.counterPtr.toInt64⟩
    rw [RecordSite.counterBase_ofRecord, UInt64.toNat_add]
  · intro m address r
    rcases m.writeRecord_cases address r with hrefused | ⟨hfits, m', hwrite⟩
    · exact .inl hrefused
    · exact .inr ⟨hfits, m', hwrite, fun later houtside =>
        SparseMemory.recordAt?_replay hwrite houtside⟩
  · intro σ _ p memory later address r hsentinel hsame h
    exact Hook.registers_recordAt? p hsentinel hsame h
  · intro σ _ steps d fileName t summary hregistry h site hsite htop
    obtain ⟨p, hp, -, hfile⟩ := written_writeTo h
    have hcovers : d.registry.Covers (.ofSteps steps) := by
      rw [hregistry]
      exact Registry.covers_replay 64 steps
    have hsize : d.registry.recordSize = 64 := by
      rw [hregistry, Registry.recordSize_replay]
      rfl
    rw [hfile]
    exact hp.recordAt?_in_file _ hsize hcovers hsite htop

/-- A record whose two counters lie far below it. -/
def lowRecord : FunctionRecord := .ofOffset 7 9 (-0x1000) 2

/-- The counters of the record, and something else that touches it from above. -/
def lowWrites : List SparseMemory.Write :=
  [⟨0x1000, .counters [5, 6]⟩, ⟨0x2040, .counters [1]⟩]

def lowSteps : List Registry.Step := [.registerData (.ofRecord 0x2000 lowRecord)]

def low : Dump where
  registry := (Registry.ofRecordSize 64).replay lowSteps
  image := .sparse ((SparseMemory.empty.after ⟨0x2000, .record lowRecord⟩).replay lowWrites)

def lowHeader : Header := (Layout.ofSpans 64 64 16 0).header .native low.starts

theorem records_read_back_low :
    FunctionRecord.decode? ((written (low.writeTo "low" ({} : ScriptedTransport)).calls).extract
        112 176) = some lowRecord ∧
      (RecordSite.ofRecord 0x2000 lowRecord).counterBase.toNat = 0x1000 := by
  have h : (low.writeTo "low" ({} : ScriptedTransport)).value.1 = .ok ⟨lowHeader, 192⟩ := by
    decide +kernel
  obtain ⟨-, -, -, -, hdescribed, hmemory, -, hdump⟩ := records_read_back
  obtain ⟨-, hbase, -⟩ := hdescribed 0x2000 lowRecord
  refine ⟨?_, hbase⟩
  have houtside : ∀ w ∈ lowWrites, ∀ a, w.Covers a → a < 0x2000 ∨ 0x2000 + 64 ≤ a := by
    refine List.forall_mem_cons.2 ⟨?_, List.forall_mem_singleton.2 ?_⟩
    · rintro a ⟨-, -, hend⟩
      change a < 0x1000 + 16 at hend
      omega
    · rintro a ⟨-, hstart, -⟩
      change 0x2040 ≤ a at hstart
      omega
  rcases hmemory .empty 0x2000 lowRecord with ⟨hrefused, -⟩ | ⟨-, m', hwrite, hkept⟩
  · exact absurd hrefused (by decide)
  · have hrecord : low.image.recordAt? 0x2000 = some lowRecord := by
      rw [low, SparseMemory.after_of_fits (w := ⟨0x2000, .record lowRecord⟩) hwrite]
      exact hkept lowWrites houtside
    obtain ⟨r, hr, hdecode⟩ := hdump lowSteps low "low" ({} : ScriptedTransport) ⟨lowHeader, 192⟩ rfl
      h (.ofRecord 0x2000 lowRecord) (by decide) (by decide)
    obtain rfl : lowRecord = r := Option.some.inj (hrecord.symm.trans hr)
    exact hdecode

end Dump

end RawProfile

import Mathlib.Control.Monad.Basic
import RawProfile.Proofs.Dump.Protocol
import RawProfile.Transport.Scripted

/-!
# Dumped files

What a dump that succeeds has written, over any transport: `writeTo_ok` takes it apart into the
plan, the handle and the writes, and `file_of_writeTo` says what the file is, byte by byte.
-/

namespace RawProfile

namespace Dump

variable {σ : Type} [Transport σ] {d : Dump} {p : Plan} {fileName : String} {t : σ}
  {summary : Summary}

/-- A dump that succeeds has a plan, opens one file, writes the whole plan to it and closes it. -/
theorem writeTo_ok (h : (d.writeTo fileName t).value.1 = .ok summary) :
    ∃ p handle, ∃ sent : List Sent, d.Plans p ∧ summary = ⟨p.header, chunksLength p.writes⟩ ∧
      sent.map Sent.chunk = p.writes ∧ (d.writeTo fileName t).calls =
        .openFile fileName (.ok handle) :: sent.map (·.call handle) ++ [.close handle] := by
  obtain ⟨p, handle, sent, hplan, -, hsent, -, hvalue, hcalls⟩ := Ending.describes_complete h
  rw [hvalue] at h
  cases h
  exact ⟨p, handle, sent, plan_eq_ok_iff.1 hplan, rfl, hsent, hcalls⟩

theorem written_writeTo (h : (d.writeTo fileName t).value.1 = .ok summary) :
    ∃ p, ∃ hp : d.Plans p, summary = ⟨p.header, p.layout.length⟩ ∧
      written (d.writeTo fileName t).calls =
        hp.sections.file (zeroBytes p.layout.paddingAfterNames.toNat) := by
  obtain ⟨p, handle, sent, hp, hsummary, hsent, hcalls⟩ := writeTo_ok h
  refine ⟨p, hp, by rw [hsummary, hp.chunksLength_writes], ?_⟩
  rw [hcalls, written_sent, hsent, Plan.joined_writes]
  rfl

/-- A header counts the elements of the registered spans: records and counters are rounded up to
whole ones, names are counted as they are. -/
structure Counts (d : Dump) (header : Header) : Prop where
  records : header.numRecords.toNat =
    (d.registry.extents.data.length.toNat + d.registry.recordSize.toNat - 1) /
      d.registry.recordSize.toNat
  counters : header.numCounters.toNat = (d.registry.extents.counters.length.toNat + 7) / 8
  names : header.namesSize = d.registry.extents.names.length

theorem Plans.counts (h : d.Plans p) : d.Counts p.header := by
  rw [h.header]
  exact ⟨h.fits.numRecords, h.fits.numCounters, h.fits.namesSize⟩

/-- Every byte of a dumped file, every call that it took, and every count in its header. -/
theorem file_of_writeTo (d : Dump) (fileName : String) (t : σ) (summary : Summary)
    (h : (d.writeTo fileName t).value.1 = .ok summary) :
    ∃ p handle padding, ∃ sent : List Sent, ∃ sections : d.Sections summary.header, ∃ file,
      d.plan.value = .ok p ∧
      (d.writeTo fileName t).calls =
        .openFile fileName (.ok handle) :: sent.map (·.call handle) ++ [.close handle] ∧
      (∀ s ∈ sent, s.bytes.size ≠ 0) ∧
      joined (sent.map Sent.bytes) = file ∧
      file = summary.header.encode ++ sections.data ++ sections.counters ++ sections.names ++
        zeroBytes padding ∧
      padding < 8 ∧ 8 ∣ file.size ∧
      summary.bytesWritten = file.size ∧ p.totalLength = file.size ∧
      p.layout.totalLength = .ok (.ofNat file.size) ∧ file.size < UInt64.size ∧
      d.Counts summary.header := by
  obtain ⟨p, handle, sent, hp, rfl, hsent, hcalls⟩ := writeTo_ok h
  have hbytes : sent.map Sent.bytes = p.writes.map (·.2) := by
    rw [← hsent, List.map_map]
    rfl
  have hfile : joined (sent.map Sent.bytes) = p.header.encode ++ p.data ++ p.counters ++ p.names ++
      zeroBytes p.layout.paddingAfterNames.toNat := by
    rw [hbytes, Plan.joined_writes]
  have hsize : (joined (sent.map Sent.bytes)).size = p.layout.length := by
    rw [hbytes, size_joined, hp.chunksLength_writes]
  have hnonempty : ∀ s ∈ sent, s.bytes.size ≠ 0 := fun s hs =>
    Plan.size_of_mem_writes (hsent ▸ List.mem_map_of_mem hs)
  refine ⟨p, handle, p.layout.paddingAfterNames.toNat, sent, hp.sections, _, plan_eq_ok_iff.2 hp,
    hcalls, hnonempty, rfl, hfile, hp.fits.padding_lt, ?_, ?_, ?_, ?_, ?_, hp.counts⟩
  · rw [hsize]
    exact hp.fits.dvd_length
  · rw [hbytes, size_joined]
  · rw [hsize, hp.totalLength_eq]
  · rw [hsize, hp.fits.totalLength]
  · rw [hsize]
    exact hp.fits.length_lt

/-- One record of 16 bytes, its two counters and three bytes of names. -/
def small : Dump where
  registry := (((Registry.ofRecordSize 16).registerData ⟨0x1000, 0x1000, 2⟩).value.2.registerNames
    0x3000 3).value
  image := .live ⟨UInt64.toUInt8⟩

def smallHeader : Header := (Layout.ofSpans 16 16 16 3).header .native small.starts

theorem file_of_writeTo_small : ∃ file padding, ∃ sections : small.Sections smallHeader,
    file = smallHeader.encode ++ sections.data ++ sections.counters ++ sections.names ++
      zeroBytes padding ∧ padding < 8 ∧ file.size = 152 := by
  have h : (small.writeTo "small" ({} : ScriptedTransport)).value.1 = .ok ⟨smallHeader, 152⟩ := by
    decide +kernel
  obtain ⟨p, handle, padding, sent, sections, file, -, -, -, -, hfile, hpadding, -, hsize, -⟩ :=
    file_of_writeTo small "small" ({} : ScriptedTransport) ⟨smallHeader, 152⟩ h
  exact ⟨file, padding, sections, hfile, hpadding, hsize.symm⟩

end Dump

end RawProfile

import Mathlib.Control.Monad.Basic
import RawProfile.Proofs.Dump.File
import RawProfile.Proofs.ProfileFile.RoundTrip
import RawProfile.Proofs.Session.Reach

/-!
# Reading dumps back

The reader of profile files undoes a dump: `parse?_writeTo` for any dump whose records have the size
that its width announces, and `parse?_writeFile` for the dumps of sessions, which always have.
-/

namespace RawProfile

namespace Dump

variable {d : Dump} {p : Plan} {header : Header}

def Sections.parts (s : d.Sections header) (padding : Nat) : ProfileFile where
  header
  binaryIds := .empty
  data := s.data
  paddingBeforeCounters := .empty
  counters := s.counters
  paddingAfterCounters := .empty
  bitmap := .empty
  paddingAfterBitmap := .empty
  names := s.names
  rest := zeroBytes padding

theorem Sections.render_parts (s : d.Sections header) (padding : Nat) :
    (s.parts padding).render = s.file (zeroBytes padding) := by
  simp only [ProfileFile.render, parts, file, ByteArray.append_empty]

theorem Plans.sized_parts (h : d.Plans p) (hsize : d.registry.recordSize = d.width.recordSize)
    (padding : Nat) : (h.sections.parts padding).Sized d.width := by
  have hdata := h.sections.size_data
  rw [hsize] at hdata
  have hheader := h.header
  have hbitmap := congrArg UInt64.toNat h.fits.numBitmapBytes
  have hpadding := congrArg UInt64.toNat h.fits.paddingAfterBitmap
  refine ⟨?_, ?_, hdata, ?_, h.sections.size_counters, ?_, ?_, ?_, h.sections.size_names⟩
  all_goals simp only [Sections.parts, hheader, Layout.header]
  · rfl
  · rfl
  · rfl
  · exact hbitmap.symm
  · exact hpadding.symm

variable {σ : Type} [Transport σ] {fileName : String} {t : σ} {summary : Summary}

/-- A dump is read back, if its records have the size that its width announces. -/
theorem parse?_writeTo (hsize : d.registry.recordSize = d.width.recordSize)
    (h : (d.writeTo fileName t).value.1 = .ok summary) :
    ∃ padding, ∃ sections : d.Sections summary.header, padding < 8 ∧
      ProfileFile.parse? (written (d.writeTo fileName t).calls) =
        some (sections.parts padding) := by
  obtain ⟨p, hp, rfl, hfile⟩ := written_writeTo h
  refine ⟨p.layout.paddingAfterNames.toNat, hp.sections, hp.fits.padding_lt, ?_⟩
  rw [hfile, ← Sections.render_parts]
  exact ProfileFile.parse?_render (hp.sized_parts hsize _)

end Dump

namespace Session

def dump (s : Session) (image : MemoryImage) : Dump :=
  { registry := s.registry, image, width := s.width }

variable {σ : Type} [Transport σ] {width : Width} {s : Session}

theorem writeFile_eq (s : Session) (image : MemoryImage) (t : σ) :
    (s.writeFile image t).value = ((s.dump image).writeTo defaultFileName t).value.1 ∧
      (s.writeFile image t).calls = ((s.dump image).writeTo defaultFileName t).calls :=
  ⟨rfl, List.append_nil _⟩

theorem Reachable.recordSize_dump (hs : Reachable width s) (image : MemoryImage) :
    (s.dump image).registry.recordSize = (s.dump image).width.recordSize :=
  hs.recordSize.trans (congrArg Width.recordSize hs.eq_replay.1.symm)

/-- The file of a session is read back as its header and its sections. -/
theorem Reachable.exists_parts (hs : Reachable width s) {image : MemoryImage} {t : σ}
    {summary : Summary} (h : (s.writeFile image t).value = .ok summary) :
    ∃ padding, ∃ sections : (s.dump image).Sections summary.header, padding < 8 ∧
      ProfileFile.parse? (written (s.writeFile image t).calls) = some (sections.parts padding) := by
  obtain ⟨hvalue, hcalls⟩ := writeFile_eq s image t
  rw [hvalue] at h
  rw [hcalls]
  exact Dump.parse?_writeTo (hs.recordSize_dump image) h

/-- The reader undoes the dump of any session, so that no two dumps with different headers or
sections have the same file. -/
theorem parse?_writeFile (width : Width) (s : Session) (hs : Reachable width s)
    (memory : SparseMemory) (t : σ) (summary : Summary)
    (h : (s.writeFile (.sparse memory) t).value = .ok summary) :
    ∃ padding, ∃ sections : (s.dump (.sparse memory)).Sections summary.header, padding < 8 ∧
      ProfileFile.parse? (written (s.writeFile (.sparse memory) t).calls) = some {
        header := summary.header
        binaryIds := .empty
        data := sections.data
        paddingBeforeCounters := .empty
        counters := sections.counters
        paddingAfterCounters := .empty
        bitmap := .empty
        paddingAfterBitmap := .empty
        names := sections.names
        rest := zeroBytes padding } ∧
      ∀ {τ : Type} [Transport τ] (width' : Width) (s' : Session) (memory' : SparseMemory) (t' : τ)
        (summary' : Summary), Reachable width' s' →
        (s'.writeFile (.sparse memory') t').value = .ok summary' →
        written (s'.writeFile (.sparse memory') t').calls =
          written (s.writeFile (.sparse memory) t).calls →
        summary'.header = summary.header ∧
          ∀ sections' : (s'.dump (.sparse memory')).Sections summary'.header,
            sections'.data = sections.data ∧ sections'.counters = sections.counters ∧
              sections'.names = sections.names := by
  obtain ⟨padding, sections, hpadding, hparse⟩ := hs.exists_parts h
  refine ⟨padding, sections, hpadding, hparse, ?_⟩
  intro τ _ width' s' memory' t' summary' hs' h' hwritten
  obtain ⟨padding', read, -, hparse'⟩ := hs'.exists_parts h'
  have hparts : read.parts padding' = sections.parts padding := by
    rw [hwritten, hparse] at hparse'
    exact (Option.some.inj hparse').symm
  refine ⟨congrArg ProfileFile.header hparts, fun sections' => ?_⟩
  obtain ⟨hdata, hcounters, hnames⟩ := sections'.eq read
  exact ⟨hdata.trans (congrArg ProfileFile.data hparts),
    hcounters.trans (congrArg ProfileFile.counters hparts),
    hnames.trans (congrArg ProfileFile.names hparts)⟩

/-- A 32-bit program with one record, one counter and three bytes of names. -/
def narrow : Session :=
  (((ofWidth .bits32).perform (.registerData ⟨0x1000, 0x1000, 1⟩)
    ({} : ScriptedTransport)).value.2.perform (.registerNames 0x3000 3)
      ({} : ScriptedTransport)).value.2

def narrowAgain : Session :=
  (narrow.perform (.registerData ⟨0x1000, 0x1000, 1⟩) ({} : ScriptedTransport)).value.2

def narrowMemory : SparseMemory where
  regions := [⟨0x1000, zeroBytes 48⟩, ⟨0x2000, wordsBytes [7]⟩, ⟨0x3000, "foo".toUTF8⟩]
  spaced := ⟨by decide +kernel, by decide +kernel⟩

def narrowHeader : Header :=
  (Layout.ofSpans 48 48 8 3).header .bits32 (narrow.dump (.sparse narrowMemory)).starts

theorem reachable_narrow : Reachable .bits32 narrow := .perform _ _ (.perform _ _ .new)

theorem parse?_writeFile_narrow :
    ∃ sections : (narrow.dump (.sparse narrowMemory)).Sections narrowHeader,
      ((ProfileFile.parse? (written (narrow.writeFile (.sparse narrowMemory)
        ({} : ScriptedTransport)).calls)).map ProfileFile.names = some sections.names) ∧
      ∀ sections' : (narrowAgain.dump (.sparse narrowMemory)).Sections narrowHeader,
        sections'.data = sections.data := by
  have h : (narrow.writeFile (.sparse narrowMemory) ({} : ScriptedTransport)).value =
      .ok ⟨narrowHeader, 176⟩ := by decide +kernel
  have h' : (narrowAgain.writeFile (.sparse narrowMemory) ({} : ScriptedTransport)).value =
      .ok ⟨narrowHeader, 176⟩ := by decide +kernel
  obtain ⟨padding, sections, -, hparse, heq⟩ := parse?_writeFile .bits32 narrow reachable_narrow
    narrowMemory ({} : ScriptedTransport) ⟨narrowHeader, 176⟩ h
  have hagain := heq .bits32 narrowAgain narrowMemory ({} : ScriptedTransport)
    ⟨narrowHeader, 176⟩ (.perform _ _ reachable_narrow) h'
    (ByteArray.ext (Array.ext' (by decide +kernel)))
  refine ⟨sections, ?_, fun sections' => (hagain.2 sections').1⟩
  rw [hparse]
  rfl

end Session

end RawProfile

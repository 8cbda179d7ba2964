import RawProfile.Proofs.Dump.Lookup
import RawProfile.Proofs.Registry.Bounds
import RawProfile.Proofs.Session.Restart
import RawProfile.Proofs.Session.Unordered
import RawProfile.Transport.MemoryStore

/-!
# Blobs without bytes

The hull of two spans reaches the bounds of both, also those of a span without addresses. So a blob
of names without bytes can stretch the names of a file over memory that nothing was registered in.
`writeFile_emptyBlob` says when it leaves the file as it is: exactly when it lies among the names
that were registered before. A blob at address zero does not, and `writeFile_nullBlob` is a session
that loses its file to one.
-/

namespace RawProfile

namespace Span

variable {s : Span} {a : UInt64}

theorem limit_ofLength_zero (a : UInt64) : (ofLength a 0).limit = a := by
  have := a.toNat_lt
  rw [← UInt64.toNat_inj, toNat_limit_ofLength]
  simp only [UInt64.toNat_zero, UInt64.size]
  omega

theorem toNat_hull_empty (s : Span) (a : UInt64) :
    (s.hull (ofLength a 0)).start.toNat = min s.start.toNat a.toNat ∧
      (s.hull (ofLength a 0)).limit.toNat = max s.limit.toNat a.toNat := by
  rw [toNat_start_hull, toNat_limit_hull, limit_ofLength_zero]
  exact ⟨rfl, rfl⟩

/-- An empty span stretches another unless it lies between its bounds. -/
theorem hull_empty_eq_iff : s.hull (ofLength a 0) = s ↔ s.start ≤ a ∧ a ≤ s.limit := by
  obtain ⟨hstart, hlimit⟩ := s.toNat_hull_empty a
  rw [UInt64.le_iff_toNat_le, UInt64.le_iff_toNat_le]
  constructor
  · intro h
    rw [h] at hstart hlimit
    omega
  · intro h
    apply ext_toNat <;> omega

theorem hull_empty_eq_of (hle : s.start ≤ s.limit)
    (hstart : (s.hull (ofLength a 0)).start = s.start)
    (hlength : (s.hull (ofLength a 0)).length = s.length) : s.hull (ofLength a 0) = s := by
  obtain ⟨hmin, hmax⟩ := s.toNat_hull_empty a
  have hnat := congrArg UInt64.toNat hlength
  rw [UInt64.le_iff_toNat_le] at hle
  rw [toNat_length, toNat_length, hstart] at hnat
  rw [hstart] at hmin
  apply ext_toNat
  · rw [hstart]
  · omega

end Span

/-! ## Names that were registered -/

namespace Entry

def blob? : Entry → Option Blob
  | record _ => none
  | names blob => some blob

/-- The blobs of some registrations, the last one first. -/
def blobs (es : List Entry) : List Blob := es.reverse.filterMap blob?

theorem mem_blobs {es : List Entry} {blob : Blob} : blob ∈ blobs es ↔ names blob ∈ es := by
  rw [blobs, List.mem_filterMap]
  constructor
  · rintro ⟨e, he, hblob⟩
    cases e with
    | record site => cases hblob
    | names other =>
      cases hblob
      exact List.mem_reverse.1 he
  · intro h
    exact ⟨_, List.mem_reverse.2 h, rfl⟩

/-- The address lies among the names: not before the first of them, and not after the last. -/
def Encloses (es : List Entry) (a : UInt64) : Prop :=
  ∃ first last, names first ∈ es ∧ names last ∈ es ∧
    first.start ≤ a ∧ a.toNat ≤ last.stretch.limit

end Entry

namespace Registry

variable {r : Registry} {es : List Entry} {s : Span}

theorem bounded_names_enterAll (h : r.names = none) (es : List Entry) :
    Bounded (r.enterAll es).names ((Entry.blobs es).map Blob.stretch) := by
  induction es using List.reverseRecOn with
  | nil =>
    change Bounded r.names []
    rw [h]
    rfl
  | append_singleton es e ih =>
    rw [enterAll, List.foldl_append, ← enterAll, Entry.blobs, List.reverse_append]
    cases e with
    | record site =>
      change Bounded ((r.enterAll es).registerData site).value.2.names _
      by_cases hsentinel : (r.enterAll es).sentinel = some site.address
      · rw [value_registerData_of_eq hsentinel]
        exact ih
      · rw [value_registerData_of_ne hsentinel]
        exact ih
    | names blob => exact ih.widen (Span.bounds_ofLength _ _)

/-- Once a blob is registered, the span of the names encloses what lies among them. -/
theorem exists_names_enterAll (h : r.names = none) {blob : Blob} (hblob : .names blob ∈ es) :
    ∃ s, (r.enterAll es).names = some s ∧ s.start ≤ s.limit ∧
      ∀ a, Entry.Encloses es a ↔ s.start ≤ a ∧ a ≤ s.limit := by
  have hbounded := bounded_names_enterAll h es
  have hmem {b : Blob} (hb : .names b ∈ es) :
      b.stretch ∈ (Entry.blobs es).map Blob.stretch :=
    List.mem_map_of_mem (Entry.mem_blobs.2 hb)
  cases hnames : (r.enterAll es).names with
  | none =>
    rw [hnames] at hbounded
    rw [hbounded] at hmem
    cases hmem hblob
  | some s =>
    rw [hnames] at hbounded
    obtain ⟨⟨⟨t, ht, hstart⟩, hleast⟩, ⟨u, hu, hlimit⟩, hgreatest⟩ := hbounded
    obtain ⟨first, hfirst, rfl⟩ := List.mem_map.1 ht
    obtain ⟨last, hlast, rfl⟩ := List.mem_map.1 hu
    have hfirstStart : first.start = s.start := UInt64.toNat_inj.1 hstart
    refine ⟨s, rfl, ?_, fun a => ⟨?_, fun ⟨hge, hle⟩ => ?_⟩⟩
    · have hfirstLimit := hgreatest ⟨_, ht, rfl⟩
      have := first.start.toNat_lt
      rw [← hfirstStart, UInt64.le_iff_toNat_le]
      simp only [Stretch.limit, Blob.stretch] at hfirstLimit
      omega
    · rintro ⟨b, b', hb, hb', hge, hle⟩
      have hbefore := hleast ⟨_, hmem hb, rfl⟩
      have hafter := hgreatest ⟨_, hmem hb', rfl⟩
      simp only [Blob.stretch] at hbefore
      rw [UInt64.le_iff_toNat_le] at hge
      simp only [UInt64.le_iff_toNat_le]
      omega
    · refine ⟨first, last, Entry.mem_blobs.1 hfirst, Entry.mem_blobs.1 hlast, ?_, ?_⟩
      · rwa [hfirstStart]
      · rwa [hlimit, ← UInt64.le_iff_toNat_le]

theorem enter_names_of_some (h : r.names = some s) (blob : Blob) :
    r.enter (.names blob) =
      { r with names := some (s.hull (.ofLength blob.start blob.length)) } := by
  rw [enter, registerNames, h]
  rfl

end Registry

/-! ## Dumps -/

namespace Dump

variable {σ : Type} [Transport σ] {d : Dump} {fileName : String} {t : σ} {summary : Summary}

theorem names_of_written (h : (d.writeTo fileName t).value.1 = .ok summary) :
    (written (d.writeTo fileName t).calls).extract 0 Header.byteCount = summary.header.encode ∧
      summary.header.namesStart = d.registry.extents.names.start ∧
      summary.header.namesSize = d.registry.extents.names.length := by
  obtain ⟨p, hp, rfl, hwritten⟩ := written_writeTo h
  refine ⟨?_, hp.namesStart_eq, hp.counts.names⟩
  rw [hwritten, Sections.file]
  simp only [ByteArray.append_assoc]
  exact ByteArray.extract_append_eq_left p.header.size_encode.symm

end Dump

namespace Session

variable {σ : Type} [Transport σ]

theorem names_eq_of_written {s s' : Session} {image image' : MemoryImage} {t t' : σ}
    {summary summary' : Summary} (h : (s.writeFile image t).value = .ok summary)
    (h' : (s'.writeFile image' t').value = .ok summary')
    (hwritten : written (s'.writeFile image' t').calls = written (s.writeFile image t).calls) :
    s'.registry.extents.names.start = s.registry.extents.names.start ∧
      s'.registry.extents.names.length = s.registry.extents.names.length := by
  obtain ⟨hvalue, hcalls⟩ := writeFile_eq s image t
  obtain ⟨hvalue', hcalls'⟩ := writeFile_eq s' image' t'
  obtain ⟨hheader, hstart, hlength⟩ := Dump.names_of_written (hvalue.symm.trans h)
  obtain ⟨hheader', hstart', hlength'⟩ := Dump.names_of_written (hvalue'.symm.trans h')
  rw [hcalls, hcalls'] at hwritten
  rw [hwritten, hheader] at hheader'
  have hsame : summary.header = summary'.header := by
    apply Option.some.inj
    rw [← Header.decode?_encode, hheader', Header.decode?_encode]
  rw [hsame] at hstart hlength
  exact ⟨hstart'.symm.trans hstart, hlength'.symm.trans hlength⟩

/-- A blob without bytes leaves the file of a session as it is if it lies among the names registered
before, and then it leaves no trace at all. Anywhere else it costs the file: the names take up more
memory, so that the dump fails or the file is another one. -/
theorem writeFile_emptyBlob (width : Width) (sentinel : Option UInt64) (es : List Entry)
    (blob : Blob) (hblob : .names blob ∈ es) (image : MemoryImage) (t : σ) (summary : Summary)
    (h : (((new width sentinel).enterAll es).writeFile image t).value = .ok summary)
    (a : UInt64) :
    let s := (new width sentinel).enterAll es
    let s' := s.enter (.names ⟨a, 0⟩)
    ((∃ summary', (s'.writeFile image t).value = .ok summary' ∧
        written (s'.writeFile image t).calls = written (s.writeFile image t).calls) ↔
      Entry.Encloses es a) ∧
    (Entry.Encloses es a → s' = s) := by
  intro s s'
  have hregistry : s.registry = (new width sentinel).registry.enterAll es := by
    change ((new width sentinel).enterAll es).registry = _
    rw [enterAll_eq]
  obtain ⟨names, hnames, hle, hencloses⟩ :=
    Registry.exists_names_enterAll (r := (new width sentinel).registry) (by rw [new_eq]) hblob
  rw [← hregistry] at hnames
  have hs' : s' = { s with
      registry := { s.registry with names := some (names.hull (.ofLength a 0)) } } := by
    change s.enter (.names ⟨a, 0⟩) = _
    rw [enter_eq, Registry.enter_names_of_some hnames]
    rfl
  have huntouched (ha : Entry.Encloses es a) : s' = s := by
    rw [hs', Span.hull_empty_eq_iff.2 ((hencloses a).1 ha), ← hnames]
  refine ⟨⟨?_, fun ha => ?_⟩, huntouched⟩
  · rintro ⟨summary', h', hwritten⟩
    obtain ⟨hstart, hlength⟩ := names_eq_of_written h h' hwritten
    have hextents : s.registry.extents.names = names := by rw [Registry.extents, hnames]; rfl
    rw [hextents, hs'] at hstart hlength
    exact (hencloses a).2 (Span.hull_empty_eq_iff.1 (Span.hull_empty_eq_of hle hstart hlength))
  · rw [huntouched ha]
    exact ⟨summary, h, rfl⟩

/-- Five bytes of names in memory, and nothing else. -/
def greetingMemory : SparseMemory where
  regions := [⟨0x3000, "hello".toUTF8⟩]
  spaced := ⟨by decide +kernel, by decide +kernel⟩

def greeting : Session := (new .bits64 none).enterAll [.names ⟨0x3000, 5⟩]

def greetingHeader : Header :=
  (Layout.ofSpans 64 0 0 5).header .bits64 (greeting.dump (.sparse greetingMemory)).starts

theorem writeFile_greeting :
    (greeting.writeFile (.sparse greetingMemory) ({} : MemoryStore)).value =
      .ok ⟨greetingHeader, 120⟩ := by
  decide +kernel

theorem writeFile_emptyBlob_greeting :
    Entry.Encloses [.names ⟨0x3000, 5⟩] 0x3005 ∧
      greeting.enter (.names ⟨0x3005, 0⟩) = greeting := by
  have hencloses : Entry.Encloses [.names ⟨0x3000, 5⟩] 0x3005 :=
    ⟨⟨0x3000, 5⟩, ⟨0x3000, 5⟩, by simp, by simp, by decide, by decide⟩
  obtain ⟨-, huntouched⟩ := writeFile_emptyBlob .bits64 none [.names ⟨0x3000, 5⟩] ⟨0x3000, 5⟩
    (by simp) (.sparse greetingMemory) ({} : MemoryStore) ⟨greetingHeader, 120⟩ writeFile_greeting
    0x3005
  exact ⟨hencloses, huntouched hencloses⟩

/-- A null blob without bytes costs a session its file: the names reach down to address zero then,
where there is no memory. -/
theorem writeFile_nullBlob :
    (greeting.writeFile (.sparse greetingMemory) ({} : MemoryStore)).value =
      .ok ⟨greetingHeader, 120⟩ ∧
    ((greeting.enter (.names ⟨0, 0⟩)).writeFile (.sparse greetingMemory)
      ({} : MemoryStore)).value = .error (.sectionUnavailable .names 0 0x3005) := by
  exact ⟨writeFile_greeting, by decide +kernel⟩

end Session

end RawProfile

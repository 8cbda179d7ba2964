import RawProfile.Proofs.Dump.Plan
import RawProfile.Proofs.Layout.Refusal

/-!
# What stands in the way of a plan

Every section of a dump takes a range of addresses: it begins where the registered span begins, and
its size is a whole number of elements. `Dump.Obstacle` lists the reasons for which there is no plan,
each under the condition that none of those before it applies, and `plan_eq_error_iff` says that
planning fails for these reasons and no others. Of the memory, a plan sees only what the three
ranges read as (`plan_congr_range`).
-/

namespace RawProfile

/-- The sections that are read before this one. -/
def Section.earlier : Section → List Section
  | .data => []
  | .counters => [.data]
  | .names => [.data, .counters]

theorem Section.eq_of_first {P : Section → Prop} {s t : Section} (hs : ¬ P s)
    (hsFirst : ∀ u ∈ s.earlier, P u) (ht : ¬ P t) (htFirst : ∀ u ∈ t.earlier, P u) : s = t := by
  have horder : s = t ∨ s ∈ t.earlier ∨ t ∈ s.earlier := by
    cases s <;> cases t <;> decide
  rcases horder with h | h | h
  · exact h
  · exact absurd (htFirst s h) hs
  · exact absurd (hsFirst t h) ht

namespace Registry

def sectionStart (r : Registry) : Section → UInt64
  | .data => r.extents.data.start
  | .counters => r.extents.counters.start
  | .names => r.extents.names.start

/-- The size of the range of a section: a span, rounded up to whole elements. It need not fit into a
word. -/
def sectionSize (r : Registry) : Section → Nat
  | .data => wholeSize r.extents.data.length.toNat r.recordSize.toNat
  | .counters => wholeSize r.extents.counters.length.toNat 8
  | .names => r.extents.names.length.toNat

def layout (r : Registry) : Except LayoutError Layout :=
  Layout.compute r.recordSize r.extents.data.length r.extents.counters.length
    r.extents.names.length

/-- The first size that does not fit into a word, when the file of a registry is laid out. -/
def Exceeds (r : Registry) : Measure → Prop
  | .data => UInt64.size ≤ r.sectionSize .data
  | .counters => r.sectionSize .data < UInt64.size ∧ UInt64.size ≤ r.sectionSize .counters
  | .file => r.sectionSize .data < UInt64.size ∧ r.sectionSize .counters < UInt64.size ∧
      UInt64.size ≤ Header.byteCount + r.sectionSize .data + r.sectionSize .counters +
        wholeSize (r.sectionSize .names) 8

variable {r : Registry} {l : Layout}

theorem layout_eq_invalidRecordSize_iff {n : UInt64} :
    r.layout = .error (.invalidRecordSize n) ↔ n = r.recordSize ∧ ¬ Layout.ValidSize n := by
  unfold layout
  rw [Layout.compute_eq_error_iff]
  constructor
  · rintro (⟨hsize, h⟩ | ⟨-, m, h, -⟩)
    · cases h
      exact ⟨rfl, hsize⟩
    · cases h
  · rintro ⟨rfl, hsize⟩
    exact .inl ⟨hsize, rfl⟩

theorem layout_eq_overflow_iff {m : Measure} :
    r.layout = .error (.overflow m) ↔ Layout.ValidSize r.recordSize ∧ r.Exceeds m := by
  have hexceeds : (Layout.ofSpans r.recordSize r.extents.data.length r.extents.counters.length
      r.extents.names.length).Exceeds m ↔ r.Exceeds m := by
    unfold Layout.Exceeds Exceeds
    rw [Layout.length_ofSpans]
    simp only [Layout.toNat_numCounters_mul]
    rw [show (Layout.ofSpans r.recordSize r.extents.data.length r.extents.counters.length
      r.extents.names.length).recordSize = r.recordSize from rfl, Layout.toNat_numRecords_mul]
    rfl
  unfold layout
  rw [Layout.compute_eq_error_iff]
  constructor
  · rintro (⟨-, h⟩ | ⟨hsize, m', h, hm⟩)
    · cases h
    · cases h
      exact ⟨hsize, hexceeds.1 hm⟩
  · rintro ⟨hsize, hm⟩
    exact .inr ⟨hsize, m, rfl, hexceeds.2 hm⟩

theorem sizes_of_layout (h : r.layout = .ok l) :
    (l.numRecords * l.recordSize).toNat = r.sectionSize .data ∧
      (l.numCounters * counterSize).toNat = r.sectionSize .counters ∧
      l.namesSize.toNat = r.sectionSize .names := by
  have hfits := Layout.fits_of_compute h
  refine ⟨?_, ?_, congrArg UInt64.toNat hfits.namesSize⟩
  · rw [hfits.toNat_dataBytes, hfits.numRecords]
    rfl
  · rw [hfits.toNat_counterBytes, hfits.numCounters]
    rfl

theorem sectionSize_lt (h : r.layout = .ok l) (which : Section) :
    r.sectionSize which < UInt64.size := by
  obtain ⟨hdata, hcounters, hnames⟩ := sizes_of_layout h
  cases which with
  | data => exact hdata ▸ UInt64.toNat_lt _
  | counters => exact hcounters ▸ UInt64.toNat_lt _
  | names => exact hnames ▸ UInt64.toNat_lt _

end Registry

namespace Dump

def range (d : Dump) (which : Section) : Option ByteArray :=
  d.image.read (d.registry.sectionStart which) (.ofNat (d.registry.sectionSize which))

/-- The memory is that of the running process, and the file would have another width. -/
def Foreign (d : Dump) : Prop := d.image.isLive = true ∧ d.width ≠ .native

/-- Why there is no plan; each reason needs that none of those before it applies. -/
inductive Obstacle (d : Dump) : DumpError → Prop where
  | foreign : d.Foreign → Obstacle d (.widthMismatch d.width)
  | layout {e : LayoutError} : ¬ d.Foreign → d.registry.layout = .error e →
      Obstacle d (.layout e)
  | range {l : Layout} {which : Section} : ¬ d.Foreign → d.registry.layout = .ok l →
      (∀ s ∈ which.earlier, (d.range s).isSome) → d.range which = none →
      Obstacle d (.sectionUnavailable which (d.registry.sectionStart which)
        (.ofNat (d.registry.sectionSize which)))

variable {d : Dump} {l : Layout} {e : DumpError}

theorem layout_of_foreign (h : d.Foreign) : d.layout = .error (.widthMismatch d.width) := if_pos h

theorem layout_of_not_foreign (h : ¬ d.Foreign) :
    d.layout = d.registry.layout.mapError .layout := if_neg h

theorem readSection_range (d : Dump) (which : Section) :
    d.readSection which (d.registry.sectionStart which) (.ofNat (d.registry.sectionSize which)) =
      match d.range which with
      | some bytes => .ok bytes
      | none => .error (.sectionUnavailable which (d.registry.sectionStart which)
        (.ofNat (d.registry.sectionSize which))) := rfl

theorem resolve_eq_ranges (hnative : ¬ d.Foreign) (h : d.registry.layout = .ok l) :
    d.resolve l = (do
      let data ← d.readSection .data (d.registry.sectionStart .data)
        (.ofNat (d.registry.sectionSize .data))
      let counters ← d.readSection .counters (d.registry.sectionStart .counters)
        (.ofNat (d.registry.sectionSize .counters))
      let names ← d.readSection .names (d.registry.sectionStart .names)
        (.ofNat (d.registry.sectionSize .names))
      return { header := l.header d.width d.starts, layout := l, data, counters, names }) := by
  obtain ⟨hdata, hcounters, hnames⟩ := Registry.sizes_of_layout h
  rw [resolve_eq (layout_eq_ok_iff.2 ⟨hnative, h⟩), ← hdata, ← hcounters, ← hnames,
    UInt64.ofNat_toNat, UInt64.ofNat_toNat, UInt64.ofNat_toNat]
  rfl

theorem plan_of_foreign (h : d.Foreign) : d.plan.value = .error (.widthMismatch d.width) :=
  plan_of_layout_error (layout_of_foreign h)

theorem plan_of_refused_layout {e : LayoutError} (hnative : ¬ d.Foreign)
    (h : d.registry.layout = .error e) : d.plan.value = .error (.layout e) := by
  refine plan_of_layout_error ?_
  rw [layout_of_not_foreign hnative, h]
  rfl

/-- With an accepted layout, the file is planned unless some range cannot be read, and the first such
range decides. -/
theorem plan_of_accepted_layout (hnative : ¬ d.Foreign) (h : d.registry.layout = .ok l) :
    (∃ p, d.plan.value = .ok p ∧ ∀ which, (d.range which).isSome) ∨
      ∃ which : Section, d.plan.value = .error (.sectionUnavailable which
          (d.registry.sectionStart which) (.ofNat (d.registry.sectionSize which))) ∧
        (∀ s ∈ which.earlier, (d.range s).isSome) ∧ d.range which = none := by
  rw [plan_of_layout (layout_eq_ok_iff.2 ⟨hnative, h⟩), resolve_eq_ranges hnative h]
  simp only [readSection_range]
  cases hdata : d.range .data with
  | none => exact .inr ⟨.data, rfl, by simp [Section.earlier], hdata⟩
  | some data =>
    cases hcounters : d.range .counters with
    | none => exact .inr ⟨.counters, rfl, by simp [Section.earlier, hdata], hcounters⟩
    | some counters =>
      cases hnames : d.range .names with
      | none => exact .inr ⟨.names, rfl, by simp [Section.earlier, hdata, hcounters], hnames⟩
      | some names =>
        refine .inl ⟨_, rfl, fun which => ?_⟩
        cases which <;> simp [hdata, hcounters, hnames]

theorem Obstacle.plan_eq (h : d.Obstacle e) : d.plan.value = .error e := by
  cases h with
  | foreign hforeign => exact plan_of_foreign hforeign
  | layout hnative hlayout => exact plan_of_refused_layout hnative hlayout
  | @range l which hnative hlayout hearlier hnone =>
    have hunread : ¬ (d.range which).isSome := by simp [hnone]
    rcases plan_of_accepted_layout hnative hlayout with ⟨p, -, hall⟩ | ⟨other, hplan, hfirst, hnone'⟩
    · exact absurd (hall which) hunread
    · have hsame : other = which :=
        Section.eq_of_first (P := fun s => (d.range s).isSome) (by simp [hnone']) hfirst hunread
          hearlier
      rw [hplan, hsame]

theorem obstacle_of_plan (h : d.plan.value = .error e) : d.Obstacle e := by
  by_cases hforeign : d.Foreign
  · rw [plan_of_foreign hforeign] at h
    cases h
    exact .foreign hforeign
  · cases hlayout : d.registry.layout with
    | error e' =>
      rw [plan_of_refused_layout hforeign hlayout] at h
      cases h
      exact .layout hforeign hlayout
    | ok l =>
      rcases plan_of_accepted_layout hforeign hlayout with
        ⟨p, hplan, -⟩ | ⟨which, hplan, hearlier, hnone⟩
      · rw [hplan] at h
        cases h
      · rw [hplan] at h
        cases h
        exact .range hforeign hlayout hearlier hnone

/-- Planning fails for the first obstacle, and for nothing else. -/
theorem plan_eq_error_iff : d.plan.value = .error e ↔ d.Obstacle e :=
  ⟨obstacle_of_plan, Obstacle.plan_eq⟩

theorem exists_plan_iff : (∃ p, d.plan.value = .ok p) ↔
    ¬ d.Foreign ∧ (∃ l, d.registry.layout = .ok l) ∧ ∀ which, (d.range which).isSome := by
  constructor
  · rintro ⟨p, hplan⟩
    have hp := plan_eq_ok_iff.1 hplan
    rcases plan_of_accepted_layout hp.native hp.layout with ⟨-, -, hall⟩ | ⟨which, hfailed, -, -⟩
    · exact ⟨hp.native, ⟨p.layout, hp.layout⟩, hall⟩
    · rw [hplan] at hfailed
      cases hfailed
  · rintro ⟨hnative, ⟨l, hlayout⟩, hall⟩
    rcases plan_of_accepted_layout hnative hlayout with ⟨p, hplan, -⟩ | ⟨which, -, -, hnone⟩
    · exact ⟨p, hplan⟩
    · have := hall which
      rw [hnone] at this
      cases this

/-- Of the memory, a plan sees what the three ranges read as. -/
theorem plan_congr_range (d : Dump) {image image' : MemoryImage}
    (hforeign : ({ d with image } : Dump).Foreign ↔ ({ d with image := image' } : Dump).Foreign)
    (hrange : ∀ which, ({ d with image } : Dump).range which =
      ({ d with image := image' } : Dump).range which) :
    ({ d with image } : Dump).plan = ({ d with image := image' } : Dump).plan := by
  unfold plan
  by_cases h : ({ d with image } : Dump).Foreign
  · rw [layout_of_foreign h, layout_of_foreign (hforeign.1 h)]
  · have h' := mt hforeign.2 h
    rw [layout_of_not_foreign h, layout_of_not_foreign h']
    cases hlayout : d.registry.layout with
    | error e => rfl
    | ok l =>
      have hresolve : ({ d with image } : Dump).resolve l =
          ({ d with image := image' } : Dump).resolve l := by
        rw [resolve_eq_ranges h hlayout, resolve_eq_ranges h' hlayout]
        simp only [readSection_range, hrange]
        rfl
      change (⟨_, _⟩ : Logged (Except DumpError Plan)) = ⟨_, _⟩
      rw [hresolve]

end Dump

end RawProfile

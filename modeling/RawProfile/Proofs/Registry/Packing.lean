import Mathlib.Algebra.BigOperators.Group.List.Basic
import Mathlib.Algebra.BigOperators.Ring.List
import Mathlib.Algebra.Order.Floor.Div
import Mathlib.Order.Interval.Finset.Nat
import RawProfile.Proofs.Layout.Exact
import RawProfile.Proofs.Registry.Bounds

/-!
# Packing

Stretches that have no address in common are together as long as the addresses they cover
(`Stretch.card_covered`), so in a span over all of them they are never longer than the span, and
just as long if they leave no gap (`Span.IsHull.packed`). Rounding up to whole elements keeps both
facts (`count_le_ceilDiv`). `counts_of_apart` counts with them: a file has room for every record and
every counter that was registered, and room for nothing else exactly where they tile their section.
-/

namespace RawProfile

namespace Stretch

def addresses (t : Stretch) : Finset Nat := Finset.Ico t.start (t.start + t.length)

@[simp] theorem mem_addresses {t : Stretch} {a : Nat} :
    a ∈ t.addresses ↔ t.start ≤ a ∧ a < t.start + t.length := Finset.mem_Ico

theorem card_addresses (t : Stretch) : t.addresses.card = t.length := by
  rw [addresses, Nat.card_Ico, Nat.add_sub_cancel_left]

/-- No address lies in two stretches of the list. -/
def Apart (ts : List Stretch) : Prop := ts.Pairwise fun t u => Disjoint t.addresses u.addresses

instance (ts : List Stretch) : Decidable (Apart ts) :=
  inferInstanceAs (Decidable (ts.Pairwise _))

/-- The stretch ends at or below the largest word. -/
def EndsInReach (t : Stretch) : Prop := t.start + t.length ≤ 2 ^ 64 - 1

instance (t : Stretch) : Decidable t.EndsInReach := inferInstanceAs (Decidable (_ ≤ _))

def covered : List Stretch → Finset Nat
  | [] => ∅
  | t :: ts => t.addresses ∪ covered ts

def total (ts : List Stretch) : Nat := (ts.map length).sum

theorem mem_covered {ts : List Stretch} {a : Nat} :
    a ∈ covered ts ↔ ∃ t ∈ ts, a ∈ t.addresses := by
  induction ts with
  | nil => simp [covered]
  | cons t ts ih => rw [covered, Finset.mem_union, ih, List.exists_mem_cons_iff]

theorem card_covered {ts : List Stretch} (h : Apart ts) : (covered ts).card = total ts := by
  induction ts with
  | nil => rfl
  | cons t ts ih =>
    obtain ⟨hfirst, hrest⟩ := List.pairwise_cons.1 h
    have hdisjoint : Disjoint t.addresses (covered ts) := by
      rw [Finset.disjoint_left]
      intro a ha hcovered
      obtain ⟨u, hu, hau⟩ := mem_covered.1 hcovered
      exact Finset.disjoint_left.1 (hfirst u hu) ha hau
    rw [covered, Finset.card_union_of_disjoint hdisjoint, ih hrest, card_addresses]
    rfl

end Stretch

namespace Span

def addresses (s : Span) : Finset Nat := Finset.Ico s.start.toNat s.limit.toNat

theorem card_addresses (s : Span) : s.addresses.card = s.length.toNat := by
  rw [addresses, Nat.card_Ico, toNat_length]

/-- Every address of the span lies in one of the stretches. -/
def NoGap (s : Span) (ts : List Stretch) : Prop := ∀ a ∈ s.addresses, ∃ t ∈ ts, a ∈ t.addresses

variable {s : Span} {ts : List Stretch}

theorem noGap_iff : s.NoGap ts ↔ s.addresses ⊆ Stretch.covered ts :=
  forall₂_congr fun _ _ => Stretch.mem_covered.symm

/-- A hull of stretches that were not cut off goes over all of them. -/
theorem IsHull.covered_subset (h : s.IsHull ts) (hreach : ∀ t ∈ ts, t.EndsInReach) :
    Stretch.covered ts ⊆ s.addresses := by
  intro a ha
  obtain ⟨t, ht, hmem⟩ := Stretch.mem_covered.1 ha
  obtain ⟨hstart, hlimit⟩ := h.bounds (List.ne_nil_of_mem ht)
  have hleast : s.start.toNat ≤ t.start := hstart.2 ⟨t, ht, rfl⟩
  have hgreatest : t.limit ≤ s.limit.toNat := hlimit.2 ⟨t, ht, rfl⟩
  have huncut : t.limit = t.start + t.length := Nat.min_eq_left (hreach t ht)
  rw [Stretch.mem_addresses] at hmem
  rw [addresses, Finset.mem_Ico]
  omega

/-- In their hull, stretches that are apart find room, and fill it if they leave no gap. -/
theorem IsHull.packed (h : s.IsHull ts) (hapart : Stretch.Apart ts)
    (hreach : ∀ t ∈ ts, t.EndsInReach) :
    Stretch.total ts ≤ s.length.toNat ∧ (Stretch.total ts = s.length.toNat ↔ s.NoGap ts) := by
  have hsubset := h.covered_subset hreach
  rw [← Stretch.card_covered hapart, ← card_addresses, noGap_iff]
  refine ⟨Finset.card_le_card hsubset, fun heq => ?_, fun hgap => ?_⟩
  · exact (Finset.eq_of_subset_of_card_le hsubset heq.ge).ge
  · exact congrArg Finset.card (hsubset.antisymm hgap)

end Span

/-- Elements that find room are no more than rounding up leaves room for, and as many exactly if
they fill it. -/
theorem count_le_ceilDiv {unit count length : Nat} (hunit : 0 < unit)
    (h : unit * count ≤ length) :
    count ≤ length ⌈/⌉ unit ∧ (length ⌈/⌉ unit = count ↔ unit * count = length) := by
  have hle : count ≤ length ⌈/⌉ unit :=
    Nat.le_of_mul_le_mul_left (h.trans (le_smul_ceilDiv hunit)) hunit
  refine ⟨hle, fun heq => ?_, fun heq => ?_⟩
  · exact Nat.le_antisymm h ((ceilDiv_le_iff_le_mul hunit).1 heq.le)
  · exact Nat.le_antisymm ((ceilDiv_le_iff_le_mul hunit).2 heq.ge) hle

namespace Registry

open Stretch (Apart EndsInReach total)

variable (sites : List RecordSite)

theorem total_stretches (recordSize : UInt64) :
    total (sites.map (·.stretch recordSize)) = recordSize.toNat * sites.length := by
  simp [total, RecordSite.stretch, Function.comp_def, Nat.mul_comm]

theorem total_counterStretches :
    total (sites.map (·.counterStretch)) = 8 * (sites.map (·.numCounters.toNat)).sum := by
  rw [total, List.map_map]
  exact List.sum_map_mul_left sites (·.numCounters.toNat) 8

/-- Of records that are apart none is lost and none is counted twice, and a file has no record more
than were registered exactly if they tile the data span. The same goes for counters. -/
theorem counts_of_apart (recordSize : UInt64) (steps : List Step) (l : Layout)
    (h : let extents := ((ofRecordSize recordSize).replay steps).extents
      Layout.compute recordSize extents.data.length extents.counters.length
        extents.names.length = .ok l) :
    let r := (ofRecordSize recordSize).replay steps
    let sites := (Roster.ofSteps steps).sites
    let records := sites.map (·.stretch recordSize)
    let blocks := sites.map (·.counterStretch)
    (Apart records → (∀ t ∈ records, t.EndsInReach) →
      r.registered ≤ l.numRecords.toNat ∧
      (l.numRecords.toNat = r.registered ↔ r.extents.data.NoGap records)) ∧
    (Apart blocks → (∀ t ∈ blocks, t.EndsInReach) →
      (sites.map (·.numCounters.toNat)).sum ≤ l.numCounters.toNat ∧
      (l.numCounters.toNat = (sites.map (·.numCounters.toNat)).sum ↔
        r.extents.counters.NoGap blocks)) := by
  intro r sites records blocks
  obtain ⟨hdata, hcounters, -, hregistered, -⟩ := extents_replay recordSize steps
  have hfits := Layout.fits_of_compute h
  refine ⟨fun hapart hreach => ?_, fun hapart hreach => ?_⟩
  · obtain ⟨hroom, hfull⟩ := hdata.packed hapart hreach
    have hcount : l.numRecords.toNat = r.extents.data.length.toNat ⌈/⌉ recordSize.toNat :=
      hfits.numRecords
    rw [total_stretches] at hroom hfull
    rw [hregistered, ← hfull, hcount]
    exact count_le_ceilDiv hfits.recordSize_pos hroom
  · obtain ⟨hroom, hfull⟩ := hcounters.packed hapart hreach
    have hcount : l.numCounters.toNat = r.extents.counters.length.toNat ⌈/⌉ 8 :=
      hfits.numCounters
    rw [total_counterStretches] at hroom hfull
    rw [← hfull, hcount]
    exact count_le_ceilDiv (by decide) hroom

/-- Two records, the upper one first, with room for a third between them. Their counters follow one
another. -/
def spacedSteps : List Step := [.registerData ⟨0x1020, 0x100, 1⟩, .registerData ⟨0x1000, 0x110, 2⟩]

/-- Two records and three counters take up the room of three and three. -/
theorem counts_of_apart_spaced :
    let r := (ofRecordSize 16).replay spacedSteps
    let sites := (Roster.ofSteps spacedSteps).sites
    let records := sites.map (·.stretch 16)
    let blocks := sites.map (·.counterStretch)
    Layout.compute 16 r.extents.data.length r.extents.counters.length r.extents.names.length =
      .ok (.ofSpans 16 48 24 0) ∧
    (Apart records ∧ ∀ t ∈ records, t.EndsInReach) ∧
    (Apart blocks ∧ ∀ t ∈ blocks, t.EndsInReach) ∧
    r.registered = 2 ∧ (Layout.ofSpans 16 48 24 0).numRecords = 3 ∧
    ¬ r.extents.data.NoGap records ∧ r.extents.counters.NoGap blocks := by
  intro r sites records blocks
  have h : Layout.compute 16 r.extents.data.length r.extents.counters.length
      r.extents.names.length = .ok (.ofSpans 16 48 24 0) := by decide +kernel
  have hrecords : Apart records ∧ ∀ t ∈ records, t.EndsInReach := by decide +kernel
  have hblocks : Apart blocks ∧ ∀ t ∈ blocks, t.EndsInReach := by decide +kernel
  obtain ⟨hdata, hcounters⟩ := counts_of_apart 16 spacedSteps (.ofSpans 16 48 24 0) h
  obtain ⟨-, hgap⟩ := hdata hrecords.1 hrecords.2
  obtain ⟨-, hnoGap⟩ := hcounters hblocks.1 hblocks.2
  refine ⟨h, hrecords, hblocks, by decide +kernel, by decide +kernel, ?_, ?_⟩
  · exact fun hfilled => absurd (hgap.2 hfilled) (by decide +kernel)
  · exact hnoGap.1 (by decide +kernel)

end Registry

end RawProfile

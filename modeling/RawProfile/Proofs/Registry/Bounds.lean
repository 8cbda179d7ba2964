import Mathlib.Algebra.Group.Int.Defs
import Mathlib.Algebra.Group.Nat.Defs
import Mathlib.Order.Bounds.Basic
import RawProfile.Proofs.Registry.Roster

/-!
# The bounds of what was registered

The span of a section in plain numbers: it goes from the least start on the roster to the greatest
limit. `Registry.Hulls` is the invariant, and a registration moves a bound only where it has to
(`Bounded.widen`). `extents_replay` reads it off for every history: counters are placed by a signed
distance that wraps, limits are cut off at the largest word, and until the next reset no span gives
up an address.
-/

namespace RawProfile

/-- Addresses from a start on, as plain numbers: they may lead past the largest word. -/
structure Stretch where
  start : Nat
  length : Nat
  deriving DecidableEq, Repr

namespace Stretch

/-- The address after the last one, and at most the largest word. -/
def limit (t : Stretch) : Nat := min (t.start + t.length) (2 ^ 64 - 1)

def starts (ts : List Stretch) : Set Nat := {a | ∃ t ∈ ts, t.start = a}

def limits (ts : List Stretch) : Set Nat := {a | ∃ t ∈ ts, t.limit = a}

@[simp] theorem starts_singleton (t : Stretch) : starts [t] = {t.start} := by
  ext a
  simp [starts, eq_comm]

@[simp] theorem limits_singleton (t : Stretch) : limits [t] = {t.limit} := by
  ext a
  simp [limits, eq_comm]

theorem starts_cons (t : Stretch) (ts : List Stretch) :
    starts (t :: ts) = starts ts ∪ {t.start} := by
  ext a
  simp [starts, eq_comm]

theorem limits_cons (t : Stretch) (ts : List Stretch) :
    limits (t :: ts) = limits ts ∪ {t.limit} := by
  ext a
  simp [limits, eq_comm]

end Stretch

def RecordSite.stretch (recordSize : UInt64) (site : RecordSite) : Stretch :=
  ⟨site.address.toNat, recordSize.toNat⟩

/-- Where the counters of a record lie: a signed distance from the record, modulo `2 ^ 64`. -/
def RecordSite.counterStretch (site : RecordSite) : Stretch :=
  ⟨((site.address.toNat + site.counterOffset.toInt) % 2 ^ 64).toNat, 8 * site.numCounters.toNat⟩

theorem RecordSite.start_counterStretch_lt (site : RecordSite) :
    site.counterStretch.start < 2 ^ 64 := by
  change ((site.address.toNat + site.counterOffset.toInt) % 2 ^ 64).toNat < 2 ^ 64
  omega

def Blob.stretch (blob : Blob) : Stretch := ⟨blob.start.toNat, blob.length.toNat⟩

namespace Span

/-- The span reaches from the least start to the greatest limit. -/
structure Bounds (s : Span) (ts : List Stretch) : Prop where
  start : IsLeast (Stretch.starts ts) s.start.toNat
  limit : IsGreatest (Stretch.limits ts) s.limit.toNat

/-- The span is bounded by the stretches; without any it is the zero span. -/
structure IsHull (s : Span) (ts : List Stretch) : Prop where
  zero : ts = [] → s = .zero
  bounds : ts ≠ [] → s.Bounds ts

variable {s u : Span} {t : Stretch} {ts : List Stretch}

theorem bounds_singleton (hstart : s.start.toNat = t.start) (hlimit : s.limit.toNat = t.limit) :
    s.Bounds [t] := by
  constructor
  · rw [hstart, Stretch.starts_singleton]
    exact isLeast_singleton
  · rw [hlimit, Stretch.limits_singleton]
    exact isGreatest_singleton

theorem bounds_ofLength (start length : UInt64) :
    (ofLength start length).Bounds [⟨start.toNat, length.toNat⟩] :=
  bounds_singleton rfl (toNat_limit_ofLength start length)

/-- One more stretch moves each bound if it lies beyond, and else leaves it. -/
theorem Bounds.hull (h : s.Bounds ts) (hu : u.Bounds [t]) : (s.hull u).Bounds (t :: ts) := by
  obtain ⟨hstart, hlimit⟩ := hu
  rw [Stretch.starts_singleton] at hstart
  rw [Stretch.limits_singleton] at hlimit
  constructor
  · rw [Stretch.starts_cons, toNat_start_hull]
    exact h.start.union hstart
  · rw [Stretch.limits_cons, toNat_limit_hull]
    exact h.limit.union hlimit

theorem IsHull.start_le_limit (h : s.IsHull ts) (hts : ∀ t ∈ ts, t.start < 2 ^ 64) :
    s.start ≤ s.limit := by
  rw [UInt64.le_iff_toNat_le]
  by_cases hempty : ts = []
  · rw [h.zero hempty]
    exact Nat.le_refl _
  · obtain ⟨⟨⟨t, ht, hstart⟩, -⟩, -, hgreatest⟩ := h.bounds hempty
    have hlimit : t.limit ≤ s.limit.toNat := hgreatest ⟨t, ht, rfl⟩
    have := hts t ht
    unfold Stretch.limit at hlimit
    omega

end Span

namespace Registry

/-- A section has a span if something was registered in it, and then a span bounded by that. -/
def Bounded (seen : Option Span) (ts : List Stretch) : Prop :=
  match seen with
  | none => ts = []
  | some s => s.Bounds ts

variable {seen : Option Span} {s : Span} {t : Stretch} {ts : List Stretch}

theorem Bounded.widen (h : Bounded seen ts) (hs : s.Bounds [t]) :
    Bounded (widen seen s) (t :: ts) := by
  cases seen with
  | none =>
    cases h
    exact hs
  | some u => exact Span.Bounds.hull h hs

theorem Bounded.isHull (h : Bounded seen ts) : (seen.getD .zero).IsHull ts := by
  cases seen with
  | none => exact ⟨fun _ => rfl, fun hts => absurd h hts⟩
  | some s =>
    refine ⟨fun hts => ?_, fun _ => h⟩
    obtain ⟨t, ht, -⟩ := h.start.1
    rw [hts] at ht
    cases ht

/-- The spans of the registry are bounded by what is on the roster, and it has counted the sites. -/
structure Hulls (r : Registry) (roster : Roster) : Prop where
  sentinel : r.sentinel = roster.sentinel
  data : Bounded r.data (roster.sites.map (·.stretch r.recordSize))
  counters : Bounded r.counters (roster.sites.map (·.counterStretch))
  names : Bounded r.names (roster.blobs.map Blob.stretch)
  registered : r.registered = roster.sites.length

variable {r r' : Registry} {roster : Roster}

theorem hulls_unregistered (recordSize : UInt64) (sentinel : Option UInt64) :
    ({ recordSize, sentinel } : Registry).Hulls { sentinel } :=
  ⟨rfl, rfl, rfl, rfl, rfl⟩

theorem bounds_counters (site : RecordSite) : site.counters.Bounds [site.counterStretch] := by
  have hbase := toNat_add_toUInt64 site.address site.counterOffset
  have hstretch : site.counterStretch =
      ⟨site.counterBase.toNat, (site.numCounters.toUInt64 * counterSize).toNat⟩ := by
    rw [RecordSite.counterStretch, site.toNat_counters_length, RecordSite.counterBase]
    exact congrArg (Stretch.mk · _) (congrArg Int.toNat hbase).symm
  rw [hstretch]
  exact Span.bounds_ofLength _ _

namespace Hulls

theorem registerData (h : r.Hulls roster) (site : RecordSite) :
    (r.step (.registerData site)).Hulls (roster.step (.registerData site)) := by
  by_cases hsentinel : r.sentinel = some site.address
  · rw [step, value_registerData_of_eq hsentinel, Roster.step, if_pos (h.sentinel ▸ hsentinel)]
    exact h
  · rw [step, value_registerData_of_ne hsentinel, Roster.step, if_neg (h.sentinel ▸ hsentinel)]
    exact ⟨h.sentinel, h.data.widen (Span.bounds_ofLength _ _),
      h.counters.widen (bounds_counters site), h.names, congrArg (· + 1) h.registered⟩

theorem step (h : r.Hulls roster) (s : Step) : (r.step s).Hulls (roster.step s) := by
  cases s with
  | registerData site => exact h.registerData site
  | registerNames start length =>
    exact ⟨h.sentinel, h.data, h.counters, h.names.widen (Span.bounds_ofLength _ _), h.registered⟩
  | withSentinel address => exact ⟨rfl, h.data, h.counters, h.names, h.registered⟩
  | reset =>
    rw [Roster.step, ← h.sentinel]
    exact hulls_unregistered r.recordSize r.sentinel

theorem replay (h : r.Hulls roster) (steps : List Step) :
    (r.replay steps).Hulls (steps.foldl Roster.step roster) := by
  induction steps generalizing r roster with
  | nil => exact h
  | cons s steps ih => exact ih (h.step s)

end Hulls

theorem hulls_replay (recordSize : UInt64) (steps : List Step) :
    ((ofRecordSize recordSize).replay steps).Hulls (.ofSteps steps) :=
  Hulls.replay (hulls_unregistered recordSize none) steps

/-! ## Widening -/

/-- No span of the other registry is missing an address that the first one has. -/
structure Widens (r r' : Registry) : Prop where
  data : ∀ s, r.data = some s → Reaches r'.data s
  counters : ∀ s, r.counters = some s → Reaches r'.counters s
  names : ∀ s, r.names = some s → Reaches r'.names s

theorem reaches_self (h : seen = some s) : Reaches seen s := ⟨s, h, Nat.le_refl _, Nat.le_refl _⟩

theorem Reaches.trans (h : Reaches seen s) {seen' : Option Span}
    (h' : ∀ u, seen = some u → Reaches seen' u) : Reaches seen' s := by
  obtain ⟨t, ht, hwithin⟩ := h
  obtain ⟨u, hu, hwithin'⟩ := h' t ht
  exact ⟨u, hu, hwithin.trans hwithin'⟩

theorem Widens.refl (r : Registry) : r.Widens r :=
  ⟨fun _ => reaches_self, fun _ => reaches_self, fun _ => reaches_self⟩

theorem Widens.trans {r'' : Registry} (h : r.Widens r') (h' : r'.Widens r'') : r.Widens r'' :=
  ⟨fun s hs => (h.data s hs).trans h'.data, fun s hs => (h.counters s hs).trans h'.counters,
    fun s hs => (h.names s hs).trans h'.names⟩

theorem widens_step {s : Step} (h : s ≠ .reset) (r : Registry) : r.Widens (r.step s) := by
  cases s with
  | registerData site =>
    by_cases hsentinel : r.sentinel = some site.address
    · rw [step, value_registerData_of_eq hsentinel]
      exact .refl r
    · rw [step, value_registerData_of_ne hsentinel]
      exact ⟨fun _ hs => (reaches_self hs).widen _, fun _ hs => (reaches_self hs).widen _,
        fun _ => reaches_self⟩
  | registerNames start length =>
    exact ⟨fun _ => reaches_self, fun _ => reaches_self, fun _ hs => (reaches_self hs).widen _⟩
  | withSentinel address =>
    exact ⟨fun _ => reaches_self, fun _ => reaches_self, fun _ => reaches_self⟩
  | reset => exact absurd rfl h

theorem widens_replay {steps : List Step} (h : .reset ∉ steps) (r : Registry) :
    r.Widens (r.replay steps) := by
  induction steps generalizing r with
  | nil => exact .refl r
  | cons s steps ih =>
    obtain ⟨hs, hsteps⟩ := not_or.1 (mt List.mem_cons.2 h)
    exact (widens_step (Ne.symm hs) r).trans (ih hsteps (r.step s))

/-- After any steps, the spans reach exactly from the first to the last address on the roster, and
the records on it have been counted. Until a reset, further steps take nothing away from a span. -/
theorem extents_replay (recordSize : UInt64) (steps : List Step) :
    let r := (ofRecordSize recordSize).replay steps
    let roster := Roster.ofSteps steps
    r.extents.data.IsHull (roster.sites.map (·.stretch recordSize)) ∧
    r.extents.counters.IsHull (roster.sites.map (·.counterStretch)) ∧
    r.extents.names.IsHull (roster.blobs.map Blob.stretch) ∧
    r.registered = roster.sites.length ∧
    r.extents.data.start ≤ r.extents.data.limit ∧
    r.extents.counters.start ≤ r.extents.counters.limit ∧
    r.extents.names.start ≤ r.extents.names.limit ∧
    ∀ later, .reset ∉ later → r.Widens (r.replay later) := by
  intro r roster
  have hhulls : r.Hulls roster := hulls_replay recordSize steps
  have hdata := hhulls.data.isHull
  rw [show r.recordSize = recordSize from recordSize_replay _ steps] at hdata
  have hcounters := hhulls.counters.isHull
  have hnames := hhulls.names.isHull
  refine ⟨hdata, hcounters, hnames, hhulls.registered, hdata.start_le_limit ?_,
    hcounters.start_le_limit ?_, hnames.start_le_limit ?_,
    fun later hlater => widens_replay hlater r⟩
  · exact List.forall_mem_map.2 fun site _ => site.address.toNat_lt
  · exact List.forall_mem_map.2 fun site _ => site.start_counterStretch_lt
  · exact List.forall_mem_map.2 fun blob _ => blob.start.toNat_lt

end Registry

end RawProfile

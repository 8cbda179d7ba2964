import RawProfile.Registry

/-!
# What a registry covers

A registry keeps three spans and forgets what they were made of. The `Roster` of a list of steps
remembers: the sites that were recorded and the names that were registered since the last reset.
`covers_replay`: whatever the steps and their order, the spans of the registry reach over everything
on the roster.
-/

namespace RawProfile

namespace Span

/-- The span lies between the bounds of another. -/
def Within (s t : Span) : Prop :=
  t.start.toNat ≤ s.start.toNat ∧ s.limit.toNat ≤ t.limit.toNat

variable {s t u : Span}

theorem Within.trans (h : s.Within t) (h' : t.Within u) : s.Within u :=
  ⟨Nat.le_trans h'.1 h.1, Nat.le_trans h.2 h'.2⟩

theorem within_hull_left (s t : Span) : s.Within (s.hull t) := by
  unfold Within
  rw [toNat_start_hull, toNat_limit_hull]
  omega

theorem within_hull_right (s t : Span) : t.Within (s.hull t) := by
  rw [hull_comm]
  exact within_hull_left t s

/-- A stretch of addresses that does not reach the top of the address space lies in a span as far
from its start as the addresses say. -/
theorem Within.le_length {start length : UInt64} (h : (ofLength start length).Within t)
    (htop : start.toNat + length.toNat < UInt64.size) :
    t.start ≤ start ∧ start.toNat - t.start.toNat + length.toNat ≤ t.length.toNat := by
  obtain ⟨hstart, hlimit⟩ := h
  rw [toNat_limit_ofLength] at hlimit
  change t.start.toNat ≤ start.toNat at hstart
  rw [toNat_length, UInt64.le_iff_toNat_le]
  omega

end Span

namespace Registry

/-- A section reaches over a span. -/
def Reaches (seen : Option Span) (s : Span) : Prop := ∃ t, seen = some t ∧ s.Within t

variable {seen : Option Span} {s : Span}

theorem reaches_widen (seen : Option Span) (s : Span) : Reaches (widen seen s) s := by
  cases seen with
  | none => exact ⟨s, rfl, Nat.le_refl _, Nat.le_refl _⟩
  | some t => exact ⟨t.hull s, rfl, Span.within_hull_right t s⟩

theorem Reaches.widen (h : Reaches seen s) (u : Span) : Reaches (widen seen u) s := by
  obtain ⟨t, rfl, ht⟩ := h
  exact ⟨t.hull u, rfl, ht.trans (Span.within_hull_left t u)⟩

theorem Reaches.within (h : Reaches seen s) : s.Within (seen.getD .zero) := by
  obtain ⟨t, rfl, ht⟩ := h
  exact ht

/-! ## Steps -/

/-- An operation on a registry. -/
inductive Step where
  | registerData (site : RecordSite)
  | registerNames (start length : UInt64)
  | withSentinel (address : UInt64)
  | reset
  deriving DecidableEq, Repr

def step (r : Registry) : Step → Registry
  | .registerData site => (r.registerData site).value.2
  | .registerNames start length => (r.registerNames start length).value
  | .withSentinel address => r.withSentinel address
  | .reset => r.reset

def replay (r : Registry) (steps : List Step) : Registry := steps.foldl step r

end Registry

structure Blob where
  start : UInt64
  length : UInt64
  deriving DecidableEq, Repr

/-- Everything that was registered since the last reset, the sentinel left out. -/
structure Roster where
  sentinel : Option UInt64 := none
  sites : List RecordSite := []
  blobs : List Blob := []
  deriving DecidableEq, Repr

namespace Roster

def step (roster : Roster) : Registry.Step → Roster
  | .registerData site =>
    if roster.sentinel = some site.address then roster
    else { roster with sites := site :: roster.sites }
  | .registerNames start length => { roster with blobs := ⟨start, length⟩ :: roster.blobs }
  | .withSentinel address => { roster with sentinel := some address }
  | .reset => { sentinel := roster.sentinel }

def ofSteps (steps : List Registry.Step) : Roster := steps.foldl step {}

end Roster

namespace Registry

/-- The spans of the registry reach over everything on the roster. -/
structure Covers (r : Registry) (roster : Roster) : Prop where
  sentinel : r.sentinel = roster.sentinel
  records : ∀ site ∈ roster.sites, Reaches r.data (.ofLength site.address r.recordSize)
  counters : ∀ site ∈ roster.sites, Reaches r.counters site.counters
  blobs : ∀ blob ∈ roster.blobs, Reaches r.names (.ofLength blob.start blob.length)

variable {r : Registry} {roster : Roster}

theorem covers_unregistered {sentinel : Option UInt64} (h : r.sentinel = sentinel) :
    r.Covers { sentinel } := by
  refine ⟨h, ?_, ?_, ?_⟩
  · intro site hsite
    cases hsite
  · intro site hsite
    cases hsite
  · intro blob hblob
    cases hblob

theorem isSentinel_iff {address : UInt64} :
    r.isSentinel address = true ↔ r.sentinel = some address := by
  rw [isSentinel, beq_iff_eq]

theorem value_registerData_of_ne {site : RecordSite} (h : r.sentinel ≠ some site.address) :
    (r.registerData site).value = (.recorded, { r with
      data := widen r.data (.ofLength site.address r.recordSize)
      counters := widen r.counters site.counters
      registered := r.registered + 1 }) := by
  rw [registerData, if_neg (mt isSentinel_iff.1 h)]

theorem value_registerData_of_eq {site : RecordSite} (h : r.sentinel = some site.address) :
    (r.registerData site).value = (.skippedSentinel, r) := by
  rw [registerData, if_pos (isSentinel_iff.2 h)]

theorem sentinel_registerData (r : Registry) (site : RecordSite) :
    (r.registerData site).value.2.sentinel = r.sentinel := by
  by_cases h : r.sentinel = some site.address
  · rw [value_registerData_of_eq h]
  · rw [value_registerData_of_ne h]

theorem recordSize_step (r : Registry) (s : Step) : (r.step s).recordSize = r.recordSize := by
  cases s with
  | registerData site =>
    by_cases h : r.sentinel = some site.address
    · rw [step, value_registerData_of_eq h]
    · rw [step, value_registerData_of_ne h]
  | registerNames start length => rfl
  | withSentinel address => rfl
  | reset => rfl

theorem recordSize_replay (r : Registry) (steps : List Step) :
    (r.replay steps).recordSize = r.recordSize := by
  induction steps generalizing r with
  | nil => rfl
  | cons s steps ih => exact (ih (r.step s)).trans (recordSize_step r s)

namespace Covers

theorem registerData (h : r.Covers roster) (site : RecordSite) :
    (r.step (.registerData site)).Covers (roster.step (.registerData site)) := by
  by_cases hsentinel : r.sentinel = some site.address
  · rw [step, value_registerData_of_eq hsentinel, Roster.step, if_pos (h.sentinel ▸ hsentinel)]
    exact h
  · rw [step, value_registerData_of_ne hsentinel, Roster.step, if_neg (h.sentinel ▸ hsentinel)]
    refine ⟨h.sentinel, ?_, ?_, h.blobs⟩
    · exact List.forall_mem_cons.2 ⟨reaches_widen _ _, fun s hs => (h.records s hs).widen _⟩
    · exact List.forall_mem_cons.2 ⟨reaches_widen _ _, fun s hs => (h.counters s hs).widen _⟩

theorem step (h : r.Covers roster) (s : Step) : (r.step s).Covers (roster.step s) := by
  cases s with
  | registerData site => exact h.registerData site
  | registerNames start length =>
    exact ⟨h.sentinel, h.records, h.counters,
      List.forall_mem_cons.2 ⟨reaches_widen _ _, fun b hb => (h.blobs b hb).widen _⟩⟩
  | withSentinel address => exact ⟨rfl, h.records, h.counters, h.blobs⟩
  | reset => exact covers_unregistered h.sentinel

theorem replay (h : r.Covers roster) (steps : List Registry.Step) :
    (r.replay steps).Covers (steps.foldl Roster.step roster) := by
  induction steps generalizing r roster with
  | nil => exact h
  | cons s steps ih => exact ih (h.step s)

end Covers

/-- A registry covers all that was registered in it. -/
theorem covers_replay (recordSize : UInt64) (steps : List Step) :
    ((ofRecordSize recordSize).replay steps).Covers (.ofSteps steps) :=
  Covers.replay (covers_unregistered rfl) steps

end Registry

end RawProfile

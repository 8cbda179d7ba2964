import RawProfile.Proofs.Registry.Roster
import RawProfile.Session

/-!
# Reachable sessions

`Session.Reachable width s`: some operations, over any transports, lead from a new session of that
width to `s`. An operation does nothing to the registry that steps of the registry could not do, and
leaves the width alone (`perform_eq`).
-/

namespace RawProfile.Session

/-- Some operations lead from a new session to this one. -/
inductive Reachable (width : Width) : Session → Prop where
  | new : Reachable width (ofWidth width)
  | perform {s : Session} (action : Action) {σ : Type} [Transport σ] (t : σ) :
      Reachable width s → Reachable width (s.perform action t).value.2

variable {σ : Type} [Transport σ] (s : Session) (t : σ)

theorem shutdown_eq (image : MemoryImage) :
    ∃ gate, (s.shutdown image t).value.2 = { s with gate } := by
  unfold shutdown
  cases s.gate.claim with
  | mk claimed gate =>
    cases claimed with
    | false => exact ⟨s.gate, rfl⟩
    | true =>
      refine ⟨gate, ?_⟩
      dsimp only
      rw [Run.value_bind]
      cases (s.writeFile image t).value with
      | ok summary => rfl
      | error e => rfl

theorem registerDataWith_eq (address : UInt64) (site : Unit → RecordSite) :
    ∃ gate site', (s.registerDataWith address site).value.2 =
      { s with registry := s.registry.step (.registerData site'), gate } := by
  unfold registerDataWith
  cases s.gate.arm with
  | mk armedNow gate =>
    refine ⟨gate, if !s.registry.isSentinel address then site () else { address }, ?_⟩
    cases armedNow with
    | false => rfl
    | true => rfl

/-- What an operation does to a session, the gate aside, is done by steps of the registry. -/
theorem perform_eq (action : Action) :
    ∃ gate steps, (s.perform action t).value.2 =
      { s with registry := s.registry.replay steps, gate } := by
  cases action with
  | registerData site =>
    obtain ⟨gate, site', h⟩ := s.registerDataWith_eq site.address fun _ => site
    exact ⟨gate, [.registerData site'], h⟩
  | registerDataWith address site =>
    obtain ⟨gate, site', h⟩ := s.registerDataWith_eq address site
    exact ⟨gate, [.registerData site'], h⟩
  | registerNames start length => exact ⟨s.gate, [.registerNames start length], rfl⟩
  | withSentinel address => exact ⟨s.gate, [.withSentinel address], rfl⟩
  | writeFile image => exact ⟨s.gate, [], rfl⟩
  | shutdown image =>
    obtain ⟨gate, h⟩ := s.shutdown_eq t image
    refine ⟨gate, [], ?_⟩
    unfold perform
    rw [Run.value_bind]
    generalize s.shutdown image t = o at h
    obtain ⟨⟨result, s'⟩, t', calls, events⟩ := o
    cases result with
    | none => exact h
    | some result => exact h
  | reset => exact ⟨s.gate.reset, [.reset], rfl⟩

variable {s} {width : Width}

/-- A reachable session has kept its width, and its registry was filled by steps of a registry. -/
theorem Reachable.eq_replay (h : Reachable width s) : s.width = width ∧
    ∃ steps, s.registry = (Registry.ofRecordSize width.recordSize).replay steps := by
  induction h with
  | new => exact ⟨rfl, [], rfl⟩
  | @perform s action σ _ t _ ih =>
    obtain ⟨hwidth, steps, hregistry⟩ := ih
    obtain ⟨gate, steps', h⟩ := s.perform_eq t action
    rw [h]
    refine ⟨hwidth, steps ++ steps', ?_⟩
    rw [hregistry, Registry.replay, Registry.replay, ← List.foldl_append]
    rfl

theorem Reachable.recordSize (h : Reachable width s) :
    s.registry.recordSize = width.recordSize := by
  obtain ⟨-, steps, hregistry⟩ := h.eq_replay
  rw [hregistry, Registry.recordSize_replay]
  rfl

end RawProfile.Session

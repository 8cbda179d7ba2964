import RawProfile.Proofs.Session.Unordered

/-!
# What a session goes by

The session after an operation follows from the session before it: the registry and the gate each go
their own way, and the transport has no part in it (`session_perform`). The answer and the calls
follow from the registry, the width, and, for a shutdown, from whether the gate is armed, over
transports that answer alike (`answer_congr`).
-/

namespace RawProfile

/-- What some steps leave is what the last of them set, if any of them sets it. -/
theorem foldl_getLast? {α β γ : Type} {f : β → α → β} {view : β → Option γ} {set? : α → Option γ}
    (h : ∀ b x, view (f b x) = (set? x).or (view b)) (xs : List α) (b : β) :
    view (xs.foldl f b) = ((xs.filterMap set?).getLast?).or (view b) := by
  induction xs generalizing b with
  | nil => rfl
  | cons x xs ih =>
    rw [List.foldl_cons, ih, h, List.filterMap_cons]
    cases set? x with
    | none => rfl
    | some c =>
      rw [List.getLast?_cons]
      cases (xs.filterMap set?).getLast? <;> rfl

namespace Session

namespace Action

/-- What the operation does to the registry. The site of a record at the sentinel is not looked
at. -/
def registryAfter (r : Registry) : Action → Registry
  | .registerData site => (r.registerData site).value.2
  | .registerDataWith address site =>
    if r.isSentinel address then r else (r.registerData (site ())).value.2
  | .registerNames start length => (r.registerNames start length).value
  | .withSentinel address => r.withSentinel address
  | .writeFile _ => r
  | .shutdown _ => r
  | .reset => r.reset

def sentinel? : Action → Option UInt64
  | .withSentinel address => some address
  | _ => none

theorem sentinel_registryAfter (r : Registry) (a : Action) :
    (a.registryAfter r).sentinel = a.sentinel?.or r.sentinel := by
  cases a with
  | registerData site => exact r.sentinel_registerData site
  | registerDataWith address site =>
    rw [registryAfter]
    split
    · rfl
    · exact r.sentinel_registerData (site ())
  | registerNames start length => rfl
  | withSentinel address => rfl
  | writeFile image => rfl
  | shutdown image => rfl
  | reset => rfl

end Action

theorem registry_registerDataWith (s : Session) (address : UInt64) (site : Unit → RecordSite) :
    (s.registerDataWith address site).value.2.registry =
      (Action.registerDataWith address site).registryAfter s.registry := by
  by_cases h : s.registry.sentinel = some address
  · rw [value_registerDataWith_of_eq h, Action.registryAfter, if_pos (Registry.isSentinel_iff.2 h)]
  · rw [value_registerDataWith_of_ne h, Action.registryAfter,
      if_neg (mt Registry.isSentinel_iff.1 h)]

variable {σ τ : Type} [Transport σ] [Transport τ]

theorem registry_perform (s : Session) (action : Action) (t : σ) :
    (s.perform action t).value.2.registry = action.registryAfter s.registry := by
  cases action with
  | registerData site =>
    have hvalue := s.value_registerData site
    exact congrArg (·.2.registry) hvalue
  | registerDataWith address site => exact s.registry_registerDataWith address site
  | registerNames start length => rfl
  | withSentinel address => rfl
  | writeFile image => rfl
  | shutdown image =>
    by_cases h : s.gate = .armed
    · rw [(perform_shutdown_of_armed h image t).1]
      rfl
    · rw [perform_shutdown_of_not_armed h]
      rfl
  | reset => rfl

theorem session_perform (s : Session) (action : Action) (t : σ) :
    (s.perform action t).value.2 =
      { s with registry := action.registryAfter s.registry, gate := action.gateAfter s.gate } := by
  have hregistry := s.registry_perform action t
  have hgate := s.gate_perform action t
  obtain ⟨gate, steps, heq⟩ := s.perform_eq t action
  rw [heq] at hregistry hgate ⊢
  exact congrArg₂ (fun r g => { s with registry := r, gate := g }) hregistry hgate

theorem runAll_concat (s : Session) (ops : List Operation) (op : Operation) :
    s.runAll (ops ++ [op]) = (s.runAll ops).after op := List.foldl_concat ..

theorem session_runAll (s : Session) (ops : List Operation) :
    s.runAll ops = { s with
      registry := (ops.map Operation.action).foldl Action.registryAfter s.registry
      gate := (ops.map Operation.action).foldl Action.gateAfter s.gate } := by
  induction ops generalizing s with
  | nil => rfl
  | cons op ops ih =>
    change (s.after op).runAll ops = _
    rw [ih, after, session_perform]
    rfl

/-! ## Answers -/

theorem writeFile_congr {s s' : Session} (hregistry : s.registry = s'.registry)
    (hwidth : s.width = s'.width) (image : MemoryImage) {t : σ} {t' : τ} (h : Alike t t') :
    (s.writeFile image t).value = (s'.writeFile image t').value ∧
      (s.writeFile image t).calls = (s'.writeFile image t').calls := by
  obtain ⟨R, hR, ht⟩ := h
  obtain ⟨hvalue, hcalls, -⟩ := lockstep_writeFile hR hwidth
    (congrArg Registry.recordSize hregistry) (congrArg Registry.extents hregistry) image t t' ht
  exact ⟨hvalue, hcalls⟩

/-- Sessions that differ in their gates at most give the same answer by the same calls, unless a
shutdown finds one gate armed and the other not. -/
theorem answer_congr {s s' : Session} (hregistry : s.registry = s'.registry)
    (hwidth : s.width = s'.width) (action : Action)
    (hgate : action.isShutdown → (s.gate = .armed ↔ s'.gate = .armed)) {t : σ} {t' : τ}
    (h : Alike t t') :
    (s.perform action t).value.1 = (s'.perform action t').value.1 ∧
      (s.perform action t).calls = (s'.perform action t').calls := by
  cases action with
  | registerData site =>
    refine ⟨?_, rfl⟩
    have hvalue := congrArg (fun v => Answer.registered v.1) (s.value_registerData site)
    have hvalue' := congrArg (fun v => Answer.registered v.1) (s'.value_registerData site)
    rw [← hregistry] at hvalue'
    exact hvalue.trans hvalue'.symm
  | registerDataWith address site =>
    refine ⟨?_, rfl⟩
    have hvalue := congrArg (fun v => Answer.registeredWith v.1.1 v.1.2)
      (s.value_registerDataWith address site)
    have hvalue' := congrArg (fun v => Answer.registeredWith v.1.1 v.1.2)
      (s'.value_registerDataWith address site)
    rw [← hregistry] at hvalue'
    exact hvalue.trans hvalue'.symm
  | registerNames start length => exact ⟨rfl, rfl⟩
  | withSentinel address => exact ⟨rfl, rfl⟩
  | writeFile image =>
    obtain ⟨hvalue, hcalls⟩ := writeFile_congr hregistry hwidth image h
    exact ⟨congrArg Answer.dumped hvalue, congrArg (· ++ []) hcalls⟩
  | shutdown image =>
    by_cases harmed : s.gate = .armed
    · obtain ⟨hvalue, hcalls⟩ := writeFile_congr hregistry hwidth image h
      obtain ⟨hdump, hdumpCalls, -⟩ := perform_shutdown_of_armed harmed image t
      obtain ⟨hdump', hdumpCalls', -⟩ := perform_shutdown_of_armed ((hgate rfl).1 harmed) image t'
      rw [hdump, hdump', hdumpCalls, hdumpCalls', hvalue]
      exact ⟨rfl, hcalls⟩
    · have harmed' : s'.gate ≠ .armed := mt (hgate rfl).2 harmed
      rw [perform_shutdown_of_not_armed harmed, perform_shutdown_of_not_armed harmed']
      exact ⟨rfl, rfl⟩
  | reset => exact ⟨rfl, rfl⟩

end Session

end RawProfile

import RawProfile.Proofs.Registry.Roster
import RawProfile.Session

/-!
# The steps of a session

What each operation does, said once: a registration of a record goes to the registry and arms the
gate, and a shutdown dumps exactly when the gate is armed (`gate_perform`,
`perform_shutdown_of_armed`). `runAll` is the session after any number of operations, each with a
transport of its own.
-/

namespace RawProfile.Session

/-- Whether this registration or an earlier one arms the gate is only reported. -/
theorem value_registerDataWith (s : Session) (address : UInt64) (site : Unit → RecordSite) :
    (s.registerDataWith address site).value =
      let described := !s.registry.isSentinel address
      let registered := (s.registry.registerData (if described then site () else { address })).value
      ((registered.1, described), { s with registry := registered.2, gate := s.gate.arm.2 }) := by
  unfold registerDataWith
  cases s.gate.arm with
  | mk armedNow gate => cases armedNow <;> rfl

theorem registerDataWith_congr {s : Session} {address : UInt64}
    (h : s.registry.sentinel = some address) (site site' : Unit → RecordSite) :
    s.registerDataWith address site = s.registerDataWith address site' := by
  have hsentinel : s.registry.isSentinel address = true := Registry.isSentinel_iff.2 h
  simp [registerDataWith, hsentinel]

theorem value_registerDataWith_of_eq {s : Session} {address : UInt64}
    (h : s.registry.sentinel = some address) (site : Unit → RecordSite) :
    (s.registerDataWith address site).value =
      ((.skippedSentinel, false), { s with gate := s.gate.arm.2 }) := by
  have hsentinel : s.registry.isSentinel address = true := Registry.isSentinel_iff.2 h
  have hskip : (s.registry.registerData { address }).value = (.skippedSentinel, s.registry) :=
    Registry.value_registerData_of_eq h
  simp only [value_registerDataWith, hsentinel, Bool.not_true, Bool.false_eq_true, if_false, hskip]

theorem value_registerDataWith_of_ne {s : Session} {address : UInt64}
    (h : s.registry.sentinel ≠ some address) (site : Unit → RecordSite) :
    (s.registerDataWith address site).value =
      (((s.registry.registerData (site ())).value.1, true),
        { s with
          registry := (s.registry.registerData (site ())).value.2
          gate := s.gate.arm.2 }) := by
  have hsentinel : s.registry.isSentinel address = false :=
    Bool.eq_false_iff.2 (mt Registry.isSentinel_iff.1 h)
  simp only [value_registerDataWith, hsentinel, Bool.not_false, if_true]

theorem value_registerData (s : Session) (site : RecordSite) :
    (s.registerData site).value = ((s.registry.registerData site).value.1,
      { s with
        registry := (s.registry.registerData site).value.2
        gate := s.gate.arm.2 }) := by
  unfold registerData
  rw [Logged.value_bind]
  by_cases h : s.registry.sentinel = some site.address
  · rw [value_registerDataWith_of_eq h, Registry.value_registerData_of_eq h]
    rfl
  · rw [value_registerDataWith_of_ne h]
    rfl

variable {σ : Type} [Transport σ] {s : Session}

theorem shutdown_of_armed (h : s.gate = .armed) (image : MemoryImage) (t : σ) :
    (s.shutdown image t).value = (some (s.writeFile image t).value, { s with gate := .fired }) ∧
      (s.shutdown image t).calls = (s.writeFile image t).calls ∧
      (s.shutdown image t).transport = (s.writeFile image t).transport := by
  have hclaim : s.gate.claim = (true, .fired) := by rw [h]; rfl
  unfold shutdown
  rw [hclaim]
  dsimp only
  rw [Run.bind_apply]
  cases (s.writeFile image t).value with
  | error e => exact ⟨rfl, List.append_nil _, rfl⟩
  | ok summary => exact ⟨rfl, List.append_nil _, rfl⟩

theorem shutdown_of_not_armed (h : s.gate ≠ .armed) (image : MemoryImage) (t : σ) :
    s.shutdown image t = ⟨(none, s), t, [], []⟩ := by
  have hclaim : s.gate.claim = (false, s.gate) := by
    cases hgate : s.gate with
    | disarmed => rfl
    | armed => exact absurd hgate h
    | fired => rfl
  unfold shutdown
  rw [hclaim]
  rfl

/-! ## Operations -/

theorem perform_shutdown_of_armed (h : s.gate = .armed) (image : MemoryImage) (t : σ) :
    (s.perform (.shutdown image) t).value =
        (.dumped (s.writeFile image t).value, { s with gate := .fired }) ∧
      (s.perform (.shutdown image) t).calls = (s.writeFile image t).calls ∧
      (s.perform (.shutdown image) t).transport = (s.writeFile image t).transport := by
  obtain ⟨hvalue, hcalls, htransport⟩ := shutdown_of_armed h image t
  rw [perform, Run.bind_apply, hvalue, hcalls, htransport]
  exact ⟨rfl, List.append_nil _, rfl⟩

theorem perform_shutdown_of_not_armed (h : s.gate ≠ .armed) (image : MemoryImage) (t : σ) :
    s.perform (.shutdown image) t = ⟨(.notDumped, s), t, [], []⟩ := by
  rw [perform, Run.bind_apply, shutdown_of_not_armed h]
  rfl

namespace Action

/-- The operation registers a record, be it the sentinel. -/
def registersRecord : Action → Bool
  | .registerData _ => true
  | .registerDataWith _ _ => true
  | _ => false

def isShutdown : Action → Bool
  | .shutdown _ => true
  | _ => false

def isWriteFile : Action → Bool
  | .writeFile _ => true
  | _ => false

def isReset : Action → Bool
  | .reset => true
  | _ => false

def gateAfter (g : Gate) : Action → Gate
  | .registerData _ => g.arm.2
  | .registerDataWith _ _ => g.arm.2
  | .shutdown _ => g.claim.2
  | .reset => g.reset
  | _ => g

end Action

/-- The gate follows the operations alone: not what is registered, nor how a dump ends. -/
theorem gate_perform (s : Session) (action : Action) (t : σ) :
    (s.perform action t).value.2.gate = action.gateAfter s.gate := by
  cases action with
  | registerData site =>
    have hvalue := s.value_registerData site
    exact congrArg (·.2.gate) hvalue
  | registerDataWith address site =>
    have hvalue := s.value_registerDataWith address site
    exact congrArg (·.2.gate) hvalue
  | registerNames start length => rfl
  | withSentinel address => rfl
  | writeFile image => rfl
  | shutdown image =>
    by_cases h : s.gate = .armed
    · obtain ⟨hvalue, -, -⟩ := perform_shutdown_of_armed h image t
      rw [hvalue, h]
      rfl
    · rw [perform_shutdown_of_not_armed h]
      cases hgate : s.gate with
      | disarmed => rfl
      | armed => exact absurd hgate h
      | fired => rfl
  | reset => rfl

structure Operation where
  action : Action
  {state : Type}
  [behaviour : Transport state]
  transport : state

attribute [instance] Operation.behaviour

def after (s : Session) (op : Operation) : Session := (s.perform op.action op.transport).value.2

def runAll (s : Session) (ops : List Operation) : Session := ops.foldl after s

theorem gate_runAll (s : Session) (ops : List Operation) :
    (s.runAll ops).gate = (ops.map Operation.action).foldl Action.gateAfter s.gate := by
  induction ops generalizing s with
  | nil => rfl
  | cons op ops ih =>
    change ((s.after op).runAll ops).gate = _
    rw [ih, after, gate_perform]
    rfl

end RawProfile.Session

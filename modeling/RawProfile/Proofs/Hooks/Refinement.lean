import RawProfile.Proofs.Hooks.Contract

/-!
# Programs refine sessions

A program whose hooks are called, with memory that changes from call to call, is a session that is
driven by operations. `Invocation.effect?` is what a call amounts to: a record is read from the
memory of its own call, the sentinel is not read, and a null record amounts to nothing.
`runtime_call` is the simulation of one call, and `callAll_refines` that of any number of them from
a program in which nothing was called.
-/

namespace RawProfile

/-! ## Sessions of programs -/

namespace Session

/-- A session of the native width that knows the sentinel. -/
structure Hosted (sentinel : UInt64) (s : Session) : Prop where
  width : s.width = .native
  recordSize : s.registry.recordSize = Width.native.recordSize
  sentinel : s.registry.sentinel = some sentinel

variable {sentinel : UInt64} {s : Session}

theorem hosted_freshSession (sentinel : UInt64) : (Hook.freshSession sentinel).Hosted sentinel :=
  ⟨rfl, rfl, rfl⟩

theorem Hosted.registerData (h : s.Hosted sentinel) (site : RecordSite) :
    (s.registerData site).value.2.Hosted sentinel := by
  have hsize : (s.registry.registerData site).value.2.recordSize = s.registry.recordSize :=
    s.registry.recordSize_step (.registerData site)
  rw [value_registerData]
  exact ⟨h.width, hsize.trans h.recordSize,
    (s.registry.sentinel_registerData site).trans h.sentinel⟩

end Session

/-! ## Effects -/

/-- A call of a hook, and the memory of the program at that moment. -/
structure Invocation (σ : Type) where
  memory : ProcessMemory
  hook : Hook σ

/-- What can be done to a runtime. -/
inductive Effect (σ : Type) where
  | act (action : Session.Action)
  | install (transport : σ)

/-- What is registered of the record at an address: nothing at zero, and at the sentinel the address
alone. -/
def ProcessMemory.siteAt? (memory : ProcessMemory) (sentinel address : UInt64) :
    Option RecordSite :=
  if address = 0 then none
  else if address = sentinel then some { address }
  else some (.ofRecord address (memory.recordAt address))

/-- What a call amounts to, if it amounts to anything. -/
def Invocation.effect? {σ : Type} (sentinel : UInt64) (c : Invocation σ) : Option (Effect σ) :=
  match c.hook with
  | .registerFunction address =>
    (c.memory.siteAt? sentinel address).map fun site => .act (.registerData site)
  | .registerNames start length => some (.act (.registerNames start length))
  | .initializeFile => none
  | .counterEntrySize => none
  | .writeFile => some (.act (.writeFile (.live c.memory)))
  | .shutdown => some (.act (.shutdown (.live c.memory)))
  | .installTransport transport => some (.install transport)
  | .reset => some (.act .reset)

variable {σ : Type} [Transport σ]

namespace Runtime

/-- The runtime after an effect: a session operates over the transport that is installed. -/
def step (r : Runtime σ) : Effect σ → Runtime σ
  | .act action =>
    let o := r.session.perform action r.transport
    ⟨o.value.2, o.transport⟩
  | .install transport => { r with transport }

def replay (r : Runtime σ) (effects : List (Effect σ)) : Runtime σ := effects.foldl step r

end Runtime

namespace Program

def after (p : Program σ) (c : Invocation σ) : Program σ := (p.call c.memory c.hook).value.2

def callAll (p : Program σ) (history : List (Invocation σ)) : Program σ := history.foldl after p

variable {p : Program σ}

theorem runtime_after_registerFunction (h : p.runtime.session.Hosted p.sentinel)
    (memory : ProcessMemory) (address : UInt64) :
    (p.after ⟨memory, .registerFunction address⟩).runtime =
      (Invocation.effect? p.sentinel ⟨memory, .registerFunction address⟩).elim p.runtime
        p.runtime.step := by
  obtain ⟨-, -, hnull, hsentinel, hrecord⟩ := Hook.contract p memory (.registerFunction address)
  simp only [Invocation.effect?, ProcessMemory.siteAt?]
  split
  · next h0 => exact congrArg runtime (hnull h0)
  · next h0 =>
    split
    · next hs =>
      subst hs
      have hvalue : (p.runtime.session.registerData { address := p.sentinel }).value.2 =
          { p.runtime.session with gate := p.runtime.session.gate.arm.2 } := by
        rw [Session.value_registerData, Registry.value_registerData_of_eq h.sentinel]
      exact (hsentinel h0 h.sentinel).1.trans
        (congrArg (Runtime.mk · p.runtime.transport) hvalue.symm)
    · next hs =>
      refine hrecord h0 ?_
      rw [h.sentinel]
      exact fun h => hs (Option.some.inj h).symm

/-- A call does to the runtime what it amounts to. -/
theorem runtime_after (h : p.runtime.session.Hosted p.sentinel) (c : Invocation σ) :
    (p.after c).runtime = (c.effect? p.sentinel).elim p.runtime p.runtime.step := by
  obtain ⟨memory, hook⟩ := c
  have hcontract := Hook.contract p memory hook
  cases hook with
  | registerFunction address => exact runtime_after_registerFunction h memory address
  | registerNames start length => exact hcontract.2.2
  | initializeFile => exact congrArg runtime hcontract.2.2
  | counterEntrySize => exact congrArg runtime hcontract.2.2
  | writeFile =>
    obtain ⟨hdumped, hafter⟩ := hcontract
    rw [hdumped.transport] at hafter
    exact hafter
  | shutdown =>
    obtain ⟨harmed, hnot, -⟩ := hcontract
    by_cases hgate : p.runtime.session.gate = .armed
    · obtain ⟨hdumped, hafter⟩ := harmed hgate
      obtain ⟨hvalue, -, htransport⟩ :=
        Session.perform_shutdown_of_armed hgate (.live memory) p.runtime.transport
      rw [hdumped.transport] at hafter
      simp only [Invocation.effect?, Option.elim, Runtime.step, hvalue, htransport]
      exact hafter
    · obtain ⟨-, -, hafter⟩ := hnot hgate
      simp only [Invocation.effect?, Option.elim, Runtime.step,
        Session.perform_shutdown_of_not_armed hgate]
      exact hafter
  | installTransport transport => exact hcontract.2.2
  | reset => exact hcontract.2.2

end Program

namespace Runtime

variable {r : Runtime σ} {sentinel : UInt64}

theorem hosted_elim (h : r.session.Hosted sentinel) (c : Invocation σ) :
    ((c.effect? sentinel).elim r r.step).session.Hosted sentinel := by
  obtain ⟨memory, hook⟩ := c
  cases hook with
  | registerFunction address =>
    simp only [Invocation.effect?]
    cases memory.siteAt? sentinel address with
    | none => exact h
    | some site => exact h.registerData site
  | registerNames start length => exact ⟨h.width, h.recordSize, h.sentinel⟩
  | initializeFile => exact h
  | counterEntrySize => exact h
  | writeFile => exact h
  | shutdown =>
    change (r.session.perform (.shutdown (.live memory)) r.transport).value.2.Hosted sentinel
    by_cases hgate : r.session.gate = .armed
    · rw [(Session.perform_shutdown_of_armed hgate (.live memory) r.transport).1]
      exact ⟨h.width, h.recordSize, h.sentinel⟩
    · rw [Session.perform_shutdown_of_not_armed hgate]
      exact h
  | installTransport transport => exact h
  | reset => exact ⟨h.width, h.recordSize, h.sentinel⟩

end Runtime

namespace Program

variable {p : Program σ}

theorem runtime_callAll (h : p.runtime.session.Hosted p.sentinel)
    (history : List (Invocation σ)) :
    (p.callAll history).runtime =
        p.runtime.replay (history.filterMap (Invocation.effect? p.sentinel)) ∧
      (p.callAll history).runtime.session.Hosted p.sentinel := by
  induction history generalizing p with
  | nil => exact ⟨rfl, h⟩
  | cons c history ih =>
    have hruntime := runtime_after h c
    have hafter : (p.after c).runtime.session.Hosted (p.after c).sentinel := by
      rw [hruntime]
      exact Runtime.hosted_elim h c
    obtain ⟨hreplay, hhosted⟩ := ih hafter
    refine ⟨hreplay.trans ?_, hhosted⟩
    rw [hruntime, List.filterMap_cons]
    cases c.effect? p.sentinel with
    | none => rfl
    | some effect => rfl

/-- From a program in which nothing was called, over whatever memory each call finds: what the hooks
share is a session of the native width with the sentinel and the transport installed last, driven by
what the calls amount to, and the next call keeps to its contract. -/
theorem callAll_refines (sentinel : UInt64) (initial : σ) (history : List (Invocation σ)) :
    let p := ({ sentinel, initial } : Program σ).callAll history
    let r : Runtime σ := ⟨(Session.ofWidth .native).withSentinel sentinel, initial⟩
    p.runtime = r.replay (history.filterMap (Invocation.effect? sentinel)) ∧
      p.runtime.session.Hosted sentinel ∧
      ∀ (memory : ProcessMemory) (hook : Hook σ), hook.Contract p memory := by
  intro p r
  obtain ⟨hreplay, hhosted⟩ := runtime_callAll (p := { sentinel, initial })
    (Session.hosted_freshSession sentinel) history
  exact ⟨hreplay, hhosted, Hook.contract p⟩

end Program

end RawProfile

import RawProfile.Hooks
import RawProfile.Proofs.Dump.Acceptance
import RawProfile.Proofs.Session.Decode
import RawProfile.Proofs.Session.Steps

/-!
# What the hooks do

`Hook.Contract p memory hook` spells out what a call of a hook does to a program, what it asks of
the transport, and what it returns; `contract` is that every call keeps to it. A status of zero is
told from the calls alone: `Session.FileAccepted` is that the transport took the complete file, with
the sections as they lie in memory at that moment.
-/

namespace RawProfile

namespace Session

/-- The file of a session with a given layout, from process memory as it is. -/
def liveFile (s : Session) (memory : ProcessMemory) (l : Layout) : ByteArray :=
  let starts := (s.dump (.live memory)).starts
  (l.header s.width starts).encode ++
    memory.bytes starts.data (l.numRecords * l.recordSize) ++
    memory.bytes starts.counters (l.numCounters * counterSize) ++
    memory.bytes starts.names l.namesSize ++
    zeroBytes l.paddingAfterNames.toNat

/-- By these calls a transport accepted the complete file of the session. -/
def FileAccepted (s : Session) (memory : ProcessMemory) (calls : List Call) : Prop :=
  ∃ l, Layout.compute s.registry.recordSize s.registry.extents.data.length
      s.registry.extents.counters.length s.registry.extents.names.length = .ok l ∧
    Accepted defaultFileName (s.liveFile memory l) calls

variable {σ : Type} [Transport σ]

theorem file_eq_liveFile {s : Session} {memory : ProcessMemory} {p : Plan}
    (h : (s.dump (.live memory)).Plans p) : p.file = s.liveFile memory p.layout := by
  have hdata := ProcessMemory.eq_bytes_of_read h.data
  have hcounters := ProcessMemory.eq_bytes_of_read h.counters
  have hnames := ProcessMemory.eq_bytes_of_read h.names
  rw [← h.joined_writes_eq, Plan.joined_writes, h.header, hdata, hcounters, hnames]
  rfl

/-- A dump of process memory succeeds if and only if the transport accepted the complete file. -/
theorem writeFile_ok_iff (s : Session) (memory : ProcessMemory) (t : σ) :
    (∃ summary, (s.writeFile (.live memory) t).value = .ok summary) ↔
      s.FileAccepted memory (s.writeFile (.live memory) t).calls := by
  obtain ⟨hvalue, hcalls⟩ := writeFile_eq s (.live memory) t
  rw [hvalue, hcalls]
  constructor
  · rintro ⟨summary, h⟩
    obtain ⟨p, hp, haccepted⟩ := Dump.accepted_of_writeTo h
    rw [file_eq_liveFile hp] at haccepted
    exact ⟨p.layout, hp.layout, haccepted⟩
  · rintro ⟨l, -, haccepted⟩
    exact Dump.writeTo_of_accepted haccepted

end Session

namespace Hook

variable {σ : Type} [Transport σ]

def statusOf : Except DumpError Summary → Int
  | .ok _ => 0
  | .error _ => -1

/-- A dump of the session was made. It cannot but end with a status, which is zero if and only if
the transport accepted the complete file. -/
structure Dumped (s : Session) (memory : ProcessMemory) (t : σ) {α : Type}
    (o : Outcome σ (HookResult σ × α)) : Prop where
  calls : o.calls = (s.writeFile (.live memory) t).calls
  transport : o.transport = (s.writeFile (.live memory) t).transport
  total : ∀ f, (s.writeFile (.live memory) t).value ≠ .error (.fault f)
  status : o.value.1.status? = some (statusOf (s.writeFile (.live memory) t).value)
  accepted : o.value.1.status? = some 0 ↔ s.FileAccepted memory o.calls

/-- What a call of a hook does to a program, what it asks of the transport, and what it returns. -/
def Contract (p : Program σ) (memory : ProcessMemory) (hook : Hook σ) : Prop :=
  let s := p.runtime.session
  let t := p.runtime.transport
  let o := p.call memory hook
  let after := o.value.2.runtime
  match hook with
  | .registerFunction address =>
    o.value.1.status? = none ∧ o.calls = [] ∧
      (address = 0 → o.value.2 = p) ∧
      (address ≠ 0 → s.registry.sentinel = some address →
        after = ⟨{ s with gate := s.gate.arm.2 }, t⟩ ∧ ∀ memory', p.call memory' hook = o) ∧
      (address ≠ 0 → s.registry.sentinel ≠ some address →
        after = ⟨(s.registerData (.ofRecord address (memory.recordAt address))).value.2, t⟩)
  | .registerNames start length =>
    o.value.1.status? = none ∧ o.calls = [] ∧ after = ⟨(s.registerNames start length).value, t⟩
  | .initializeFile => o.value.1.status? = none ∧ o.calls = [] ∧ o.value.2 = p
  | .counterEntrySize => o.value.1 = .size counterSize ∧ o.calls = [] ∧ o.value.2 = p
  | .writeFile => Dumped s memory t o ∧ after = ⟨s, o.transport⟩
  | .shutdown =>
    (s.gate = .armed → Dumped s memory t o ∧ after = ⟨{ s with gate := .fired }, o.transport⟩) ∧
      (s.gate ≠ .armed → o.value.1.status? = some 0 ∧ o.calls = [] ∧ after = ⟨s, t⟩) ∧
      (o.value.1.status? = some (-1) ↔ s.gate = .armed ∧ ¬ s.FileAccepted memory o.calls)
  | .installTransport new => o.value.1 = .transport t ∧ o.calls = [] ∧ after = ⟨s, new⟩
  | .reset => o.value.1.status? = none ∧ o.calls = [] ∧ after = ⟨s.reset, t⟩

/-! ## Sessions -/

variable {s : Session} {memory : ProcessMemory} {t : σ}

theorem statusOf_eq_zero_iff {result : Except DumpError Summary} :
    statusOf result = 0 ↔ ∃ summary, result = .ok summary := by
  cases result with
  | ok summary => exact iff_of_true rfl ⟨summary, rfl⟩
  | error e => simp [statusOf]

theorem Dumped.of_status {α : Type} {o : Outcome σ (HookResult σ × α)}
    (hcalls : o.calls = (s.writeFile (.live memory) t).calls)
    (htransport : o.transport = (s.writeFile (.live memory) t).transport)
    (hstatus : o.value.1.status? = some (statusOf (s.writeFile (.live memory) t).value)) :
    Dumped s memory t o := by
  refine ⟨hcalls, htransport, fun f => ?_, hstatus, ?_⟩
  · rw [(Session.writeFile_eq s (.live memory) t).1]
    exact Dump.writeTo_ne_fault _ _ _ f
  · rw [hstatus, hcalls, Option.some_inj, statusOf_eq_zero_iff]
    exact s.writeFile_ok_iff memory t

theorem Dumped.status_eq_neg_one_iff {α : Type} {o : Outcome σ (HookResult σ × α)}
    (h : Dumped s memory t o) :
    o.value.1.status? = some (-1) ↔ ¬ s.FileAccepted memory o.calls := by
  rw [← h.accepted, h.status, Option.some_inj, Option.some_inj]
  cases (s.writeFile (.live memory) t).value with
  | ok summary => simp [statusOf]
  | error e => simp [statusOf]

theorem Dumped.congr {α β : Type} {o : Outcome σ (HookResult σ × α)}
    {o' : Outcome σ (HookResult σ × β)} (h : Dumped s memory t o) (hcalls : o'.calls = o.calls)
    (htransport : o'.transport = o.transport) (hresult : o'.value.1 = o.value.1) :
    Dumped s memory t o' :=
  .of_status (hcalls.trans h.calls) (htransport.trans h.transport)
    ((congrArg HookResult.status? hresult).trans h.status)

variable (s memory t)

theorem perform_registerFunction {address : UInt64} (h : address ≠ 0) :
    (Hook.registerFunction address).perform memory s t =
      let o := s.registerDataWith address fun _ => .ofRecord address (memory.recordAt address)
      ⟨(.none, o.value.2), t, [], o.events⟩ := by
  rw [perform, if_neg h, Run.bind_apply]
  simp [Run.ofLogged]

theorem perform_writeFile : Dumped s memory t (Hook.writeFile.perform memory s t) ∧
    (Hook.writeFile.perform memory s t).value.2 = s := by
  rw [perform, Run.bind_apply]
  cases hvalue : (s.writeFile (.live memory) t).value with
  | ok summary => exact ⟨.of_status (List.append_nil _) rfl (by rw [hvalue]; rfl), rfl⟩
  | error e => exact ⟨.of_status (List.append_nil _) rfl (by rw [hvalue]; rfl), rfl⟩

variable {s}

theorem perform_shutdown (h : s.gate = .armed) :
    Dumped s memory t (Hook.shutdown.perform memory s t) ∧
      (Hook.shutdown.perform memory s t).value.2 = { s with gate := .fired } := by
  obtain ⟨hvalue, hcalls, htransport⟩ := Session.shutdown_of_armed h (.live memory) t
  rw [perform, Run.bind_apply, hvalue, hcalls, htransport]
  cases hdump : (s.writeFile (.live memory) t).value with
  | ok summary => exact ⟨.of_status (List.append_nil _) rfl (by rw [hdump]; rfl), rfl⟩
  | error e => exact ⟨.of_status (List.append_nil _) rfl (by rw [hdump]; rfl), rfl⟩

theorem perform_shutdown_of_not_armed (h : s.gate ≠ .armed) :
    Hook.shutdown.perform memory s t = ⟨(.success, s), t, [], []⟩ := by
  rw [perform, Run.bind_apply, Session.shutdown_of_not_armed h]
  rfl

end Hook

/-! ## Programs -/

namespace Hook

variable {σ : Type} [Transport σ] (p : Program σ) (memory : ProcessMemory)

theorem call_registerFunction {address : UInt64} (h : address ≠ 0) :
    p.call memory (.registerFunction address) =
      let o := p.runtime.session.registerDataWith address fun _ =>
        .ofRecord address (memory.recordAt address)
      ⟨(.none, { p with shared := some ⟨o.value.2, p.runtime.transport⟩ }), p.runtime.transport, [],
        o.events⟩ := by
  have hneeds : (Hook.registerFunction address : Hook σ).needsRuntime = true := decide_eq_true h
  rw [Program.call, perform_registerFunction _ _ _ h, hneeds]
  rfl

/-- A null record does nothing, the sentinel arms the gate, and any other record is read now. -/
theorem contract_registerFunction (address : UInt64) :
    (Hook.registerFunction address).Contract p memory := by
  by_cases hnull : address = 0
  · subst hnull
    exact ⟨rfl, rfl, fun _ => rfl, fun h => absurd rfl h, fun h => absurd rfl h⟩
  · have hcall := call_registerFunction p memory hnull
    refine ⟨?_, ?_, fun h => absurd h hnull, fun _ hsentinel => ⟨?_, fun memory' => ?_⟩,
      fun _ hsentinel => ?_⟩
    · rw [hcall]
      rfl
    · rw [hcall]
    · rw [hcall]
      dsimp only
      rw [Session.value_registerDataWith_of_eq hsentinel]
      rfl
    · rw [hcall, call_registerFunction p memory' hnull,
        Session.registerDataWith_congr hsentinel]
    · rw [hcall]
      dsimp only
      rw [Session.value_registerDataWith_of_ne hsentinel, Session.value_registerData]
      rfl

theorem contract_writeFile : Hook.writeFile.Contract p memory := by
  obtain ⟨hdumped, hsession⟩ := perform_writeFile p.runtime.session memory p.runtime.transport
  exact ⟨hdumped.congr rfl rfl rfl, congrArg (Runtime.mk · _) hsession⟩

/-- A shutdown dumps if the gate is armed, and only then can it fail. -/
theorem contract_shutdown : Hook.shutdown.Contract p memory := by
  by_cases hgate : p.runtime.session.gate = .armed
  · obtain ⟨hperform, hsession⟩ := perform_shutdown memory p.runtime.transport hgate
    have hdumped : Dumped p.runtime.session memory p.runtime.transport
        (p.call memory .shutdown) := hperform.congr rfl rfl rfl
    refine ⟨fun _ => ⟨hdumped, congrArg (Runtime.mk · _) hsession⟩, fun h => absurd hgate h, ?_⟩
    exact hdumped.status_eq_neg_one_iff.trans (and_iff_right hgate).symm
  · have hcall : p.call memory .shutdown =
        ⟨(.success, { p with shared := some p.runtime }), p.runtime.transport, [], []⟩ := by
      rw [Program.call, perform_shutdown_of_not_armed memory p.runtime.transport hgate]
      rfl
    have hstatus : (p.call memory .shutdown).value.1.status? = some 0 := by
      rw [hcall]
      rfl
    refine ⟨fun h => absurd h hgate, fun _ => ⟨hstatus, ?_, ?_⟩, ?_⟩
    · rw [hcall]
    · rw [hcall]
      rfl
    · rw [hstatus]
      exact iff_of_false (by decide) fun h => hgate h.1

/-- Every call of a hook keeps to its contract. -/
theorem contract (hook : Hook σ) : hook.Contract p memory := by
  cases hook with
  | registerFunction address => exact contract_registerFunction p memory address
  | registerNames start length => exact ⟨rfl, rfl, rfl⟩
  | initializeFile => exact ⟨rfl, rfl, rfl⟩
  | counterEntrySize => exact ⟨rfl, rfl, rfl⟩
  | writeFile => exact contract_writeFile p memory
  | shutdown => exact contract_shutdown p memory
  | installTransport new => exact ⟨rfl, rfl, rfl⟩
  | reset => exact ⟨rfl, rfl, rfl⟩

end Hook

end RawProfile

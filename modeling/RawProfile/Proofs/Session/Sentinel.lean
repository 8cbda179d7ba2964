import RawProfile.Proofs.Session.Effects
import RawProfile.Proofs.Session.Shutdown

/-!
# Registering the sentinel

`Inserted sentinel ops ops'`: a run, and the same run with registrations at the sentinel put in
anywhere. The two sessions differ in their gates at most (`runAll_inserted`), and where the run
itself registers a record before it first shuts down (`RegisteredFirst`), not even a shutdown tells
them apart: `perform_inserted`.
-/

namespace RawProfile.Session

/-- The operation registers a record at the address. -/
def Action.RegistersAt (address : UInt64) : Action → Prop
  | .registerData site => site.address = address
  | .registerDataWith a _ => a = address
  | _ => False

/-- The second run is the first one, with registrations at the sentinel put in. The operations that
both have in common leave the sentinel as it is, and may go to different transports. -/
inductive Inserted (sentinel : UInt64) : List Operation → List Operation → Prop where
  | nil : Inserted sentinel [] []
  | common {ops ops' : List Operation} {op op' : Operation} : Inserted sentinel ops ops' →
      op.action = op'.action → (∀ a ∈ op.action.sentinel?, a = sentinel) →
      Inserted sentinel (ops ++ [op]) (ops' ++ [op'])
  | inserted {ops ops' : List Operation} {op : Operation} : Inserted sentinel ops ops' →
      op.action.RegistersAt sentinel → Inserted sentinel ops (ops' ++ [op])

/-- A record is registered before the first shutdown, if there is a shutdown at all. -/
def RegisteredFirst (since : List Action) : Prop :=
  ∃ earlier a later, since = earlier ++ a :: later ∧ a.registersRecord ∧
    ∀ b ∈ earlier, ¬ b.isShutdown

namespace Action

variable {a : Action} {address : UInt64} {r : Registry}

theorem RegistersAt.registersRecord (h : a.RegistersAt address) : a.registersRecord := by
  cases a
  case registerData | registerDataWith => rfl
  all_goals cases h

theorem not_isShutdown_of_registersRecord (h : a.registersRecord) : ¬ a.isShutdown := by
  cases a
  case shutdown => cases h
  all_goals exact Bool.false_ne_true

theorem not_isReset_of_registersRecord (h : a.registersRecord) : ¬ a.isReset := by
  cases a
  case reset => cases h
  all_goals exact Bool.false_ne_true

theorem RegistersAt.registryAfter_eq (h : a.RegistersAt address) (hr : r.sentinel = some address) :
    a.registryAfter r = r := by
  cases a
  case registerData site =>
    rw [registryAfter, Registry.value_registerData_of_eq (hr.trans (congrArg some h.symm))]
  case registerDataWith address' site =>
    rw [registryAfter, if_pos (Registry.isSentinel_iff.2 (hr.trans (congrArg some h.symm)))]
  all_goals cases h

end Action

/-! ## Stretches between resets -/

variable {since : List Action} {a : Action}

theorem registeredFirst_concat : RegisteredFirst (since ++ [a]) ↔
    RegisteredFirst since ∨ a.registersRecord ∧ ∀ b ∈ since, ¬ b.isShutdown := by
  constructor
  · rintro ⟨earlier, b, later, heq, hregisters, hfirst⟩
    rcases List.eq_nil_or_concat later with rfl | ⟨later, c, rfl⟩
    · obtain ⟨rfl, hb⟩ := List.append_inj' heq rfl
      cases hb
      exact .inr ⟨hregisters, hfirst⟩
    · rw [List.concat_eq_append, ← List.cons_append, ← List.append_assoc] at heq
      obtain ⟨rfl, -⟩ := List.append_inj' heq rfl
      exact .inl ⟨earlier, b, later, rfl, hregisters, hfirst⟩
  · rintro (⟨earlier, b, later, rfl, hregisters, hfirst⟩ | ⟨hregisters, hfirst⟩)
    · exact ⟨earlier, b, later ++ [a], by simp, hregisters, hfirst⟩
    · exact ⟨since, a, [], rfl, hregisters, hfirst⟩

theorem RegisteredFirst.due_iff (h : RegisteredFirst since) :
    Due since ↔ ∀ b ∈ since, ¬ b.isShutdown := by
  obtain ⟨earlier, a, later, rfl, hregisters, hfirst⟩ := h
  constructor
  · intro hdue
    have hlater := (List.pairwise_cons.1 (List.pairwise_append.1 hdue.first).2.1).1
    refine List.forall_mem_append.2 ⟨hfirst, List.forall_mem_cons.2 ⟨?_, fun b hb => ?_⟩⟩
    · exact Action.not_isShutdown_of_registersRecord hregisters
    · exact hlater b hb hregisters
  · intro hnone
    refine ⟨⟨a, List.mem_append_right _ List.mem_cons_self, hregisters⟩, ?_⟩
    exact List.pairwise_of_forall_mem_list fun _ _ b hb _ => hnone b hb

/-- Two stretches of operations, one with registrations of the sentinel put in, have shutdowns both
or neither, and start with a registration both or neither. -/
structure SameStretch (since since' : List Action) : Prop where
  shutdown : (∀ b ∈ since', ¬ b.isShutdown) ↔ ∀ b ∈ since, ¬ b.isShutdown
  registeredFirst : RegisteredFirst since → RegisteredFirst since'

namespace SameStretch

variable {since' : List Action}

theorem nil : SameStretch [] [] := ⟨Iff.rfl, id⟩

theorem concat (h : SameStretch since since') (a : Action) :
    SameStretch (since ++ [a]) (since' ++ [a]) := by
  constructor
  · rw [List.forall_mem_append, List.forall_mem_append, h.shutdown]
  · rw [registeredFirst_concat, registeredFirst_concat, h.shutdown]
    exact Or.imp_left h.registeredFirst

theorem insert (h : SameStretch since since') (ha : a.registersRecord) :
    SameStretch since (since' ++ [a]) := by
  constructor
  · rw [List.forall_mem_append, List.forall_mem_singleton, h.shutdown]
    exact and_iff_left (Action.not_isShutdown_of_registersRecord ha)
  · exact fun hfirst => registeredFirst_concat.2 (.inl (h.registeredFirst hfirst))

/-- If the stretch without them starts with a registration, the registrations put in make no dump
due and none past. -/
theorem due_iff (h : SameStretch since since') (hfirst : RegisteredFirst since) :
    Due since' ↔ Due since := by
  rw [hfirst.due_iff, (h.registeredFirst hfirst).due_iff, h.shutdown]

end SameStretch

/-! ## Two runs side by side -/

variable {sentinel : UInt64} {ops ops' : List Operation}

theorem Inserted.sameStretch (h : Inserted sentinel ops ops') :
    SameStretch (sinceReset (ops.map Operation.action))
      (sinceReset (ops'.map Operation.action)) := by
  induction h with
  | nil => exact .nil
  | @common ops ops' op op' _ hsame _ ih =>
    rw [List.map_append, List.map_append, List.map_singleton, List.map_singleton, ← hsame]
    by_cases hreset : op.action.isReset
    · rw [sinceReset_concat_reset hreset, sinceReset_concat_reset hreset]
      exact .nil
    · rw [sinceReset_concat hreset, sinceReset_concat hreset]
      exact ih.concat op.action
  | @inserted ops ops' op _ hsentinel ih =>
    have hregisters := hsentinel.registersRecord
    rw [List.map_append, List.map_singleton,
      sinceReset_concat (Action.not_isReset_of_registersRecord hregisters)]
    exact ih.insert hregisters

/-- The registrations put in show in the gate alone. -/
theorem runAll_inserted (h : Inserted sentinel ops ops') {s : Session}
    (hs : s.registry.sentinel = some sentinel) :
    (s.runAll ops).registry.sentinel = some sentinel ∧
      s.runAll ops' = { s.runAll ops with gate := (s.runAll ops').gate } := by
  induction h with
  | nil => exact ⟨hs, rfl⟩
  | @common ops ops' op op' _ hsame hkeeps ih =>
    obtain ⟨hsentinel, heq⟩ := ih
    rw [runAll_concat, runAll_concat, after, after, session_perform, session_perform,
      ← hsame, heq]
    refine ⟨?_, rfl⟩
    rw [Action.sentinel_registryAfter, hsentinel]
    cases hset : op.action.sentinel? with
    | none => rfl
    | some a => exact congrArg some (hkeeps a hset)
  | @inserted ops ops' op _ hregisters ih =>
    obtain ⟨hsentinel, heq⟩ := ih
    refine ⟨hsentinel, ?_⟩
    rw [runAll_concat, after, session_perform, heq]
    exact congrArg (fun r => Session.mk r _ _) (hregisters.registryAfter_eq hsentinel)

theorem gate_inserted (h : Inserted sentinel ops ops') (width : Width)
    (hfirst : RegisteredFirst (sinceReset (ops.map Operation.action))) :
    (((ofWidth width).withSentinel sentinel).runAll ops').gate = .armed ↔
      (((ofWidth width).withSentinel sentinel).runAll ops).gate = .armed := by
  rw [gate_runAll, gate_runAll]
  exact (Gate.tracks_foldl _).armed_iff.trans
    ((h.sameStretch.due_iff hfirst).trans (Gate.tracks_foldl _).armed_iff.symm)

/-! ## The registrations put in -/

section

variable {σ : Type} [Transport σ] {s : Session}

theorem perform_registerData_of_eq {site : RecordSite}
    (h : s.registry.sentinel = some site.address) (t : σ) :
    (s.perform (.registerData site) t).value =
        (.registered .skippedSentinel, { s with gate := s.gate.arm.2 }) ∧
      (s.perform (.registerData site) t).calls = [] := by
  have hvalue := s.value_registerData site
  rw [Registry.value_registerData_of_eq h] at hvalue
  exact ⟨congrArg (fun v => (Answer.registered v.1, v.2)) hvalue, rfl⟩

theorem perform_registerDataWith_of_eq {address : UInt64}
    (h : s.registry.sentinel = some address) (site : Unit → RecordSite) (t : σ) :
    (s.perform (.registerDataWith address site) t).value =
        (.registeredWith .skippedSentinel false, { s with gate := s.gate.arm.2 }) ∧
      (s.perform (.registerDataWith address site) t).calls = [] := by
  have hvalue := value_registerDataWith_of_eq h site
  exact ⟨congrArg (fun v => (Answer.registeredWith v.1.1 v.1.2, v.2)) hvalue, rfl⟩

theorem perform_registerDataWith_congr {address : UInt64}
    (h : s.registry.sentinel = some address) (site site' : Unit → RecordSite) (t : σ) :
    s.perform (.registerDataWith address site) t =
      s.perform (.registerDataWith address site') t := by
  rw [perform, perform, registerDataWith_congr h site site']

end

/-- Registrations at the sentinel, put in anywhere in a run, are skipped, and show in nothing but
the gate: the ranges and the count are those of the run without them, and so is the answer to the
next operation with its calls. This includes a shutdown, if a record is registered in the run itself
before the first shutdown since the last reset. -/
theorem perform_inserted (width : Width) (h : Inserted sentinel ops ops') :
    let s := ((ofWidth width).withSentinel sentinel).runAll ops
    let s' := ((ofWidth width).withSentinel sentinel).runAll ops'
    s' = { s with gate := s'.gate } ∧
    s'.registry.extents = s.registry.extents ∧
    s'.registry.registered = s.registry.registered ∧
    (∀ {σ : Type} [Transport σ] (site : RecordSite) (t : σ), site.address = sentinel →
      let o := s'.perform (.registerData site) t
      o.value = (.registered .skippedSentinel, { s' with gate := s'.gate.arm.2 }) ∧
        o.calls = []) ∧
    (∀ {σ : Type} [Transport σ] (site : Unit → RecordSite) (t : σ),
      let o := s'.perform (.registerDataWith sentinel site) t
      o.value = (.registeredWith .skippedSentinel false, { s' with gate := s'.gate.arm.2 }) ∧
        o.calls = [] ∧ ∀ site', s'.perform (.registerDataWith sentinel site') t = o) ∧
    ∀ {σ τ : Type} [Transport σ] [Transport τ] (action : Action) (t : σ) (t' : τ),
      (action.isShutdown → RegisteredFirst (sinceReset (ops.map Operation.action))) →
      Alike t t' →
        (s'.perform action t').value.1 = (s.perform action t).value.1 ∧
        (s'.perform action t').calls = (s.perform action t).calls := by
  intro s s'
  obtain ⟨hs, heq⟩ := runAll_inserted h (s := (ofWidth width).withSentinel sentinel) rfl
  have hregistry : s'.registry = s.registry := by rw [show s' = _ from heq]
  have hwidth : s'.width = s.width := by rw [show s' = _ from heq]
  have hsentinel : s'.registry.sentinel = some sentinel := hregistry ▸ hs
  refine ⟨heq, congrArg Registry.extents hregistry, congrArg Registry.registered hregistry,
    fun site t hsite => ?_, fun site t => ?_, fun action t t' hfirst halike => ?_⟩
  · exact perform_registerData_of_eq (hsite ▸ hsentinel) t
  · obtain ⟨hvalue, hcalls⟩ := perform_registerDataWith_of_eq hsentinel site t
    exact ⟨hvalue, hcalls, fun site' => perform_registerDataWith_congr hsentinel site' site t⟩
  · have hgate (hshutdown : action.isShutdown) : s.gate = .armed ↔ s'.gate = .armed :=
      (gate_inserted h width (hfirst hshutdown)).symm
    obtain ⟨hanswer, hcalls⟩ := answer_congr hregistry.symm hwidth.symm action hgate halike
    exact ⟨hanswer.symm, hcalls.symm⟩

/-- A record at `0x1000`, with the sentinel registered before it and after it. A shutdown finds the
gate armed with the sentinel and without. -/
theorem perform_inserted_around :
    let record : Operation := ⟨.registerData ⟨0x1000, 0x20, 2⟩, ({} : ScriptedTransport)⟩
    let before : Operation :=
      ⟨.registerDataWith 0x40 fun _ => ⟨0x40, 8, 1⟩, ({} : ScriptedTransport)⟩
    let after : Operation := ⟨.registerData ⟨0x40, -8, 3⟩, ({} : ScriptedTransport)⟩
    let s := ((ofWidth .bits64).withSentinel 0x40).runAll [record]
    let s' := ((ofWidth .bits64).withSentinel 0x40).runAll [before, record, after]
    let shutdown : Action := .shutdown (.sparse .empty)
    Inserted 0x40 [record] [before, record, after] ∧
      RegisteredFirst [record.action] ∧
      s'.registry.registered = s.registry.registered ∧
      (s'.perform shutdown ({} : ScriptedTransport)).value.1 =
        (s.perform shutdown ({} : ScriptedTransport)).value.1 := by
  intro record before after s s' shutdown
  have hbefore : before.action.RegistersAt 0x40 := rfl
  have hafter : after.action.RegistersAt 0x40 := rfl
  have hkeeps : ∀ a ∈ record.action.sentinel?, a = 0x40 := nofun
  have hinserted : Inserted 0x40 [record] [before, record, after] :=
    .inserted (.common (.inserted .nil hbefore) rfl hkeeps) hafter
  have hfirst : RegisteredFirst [record.action] := ⟨[], _, [], rfl, rfl, nofun⟩
  obtain ⟨-, -, hregistered, -, -, hcommon⟩ := perform_inserted .bits64 hinserted
  exact ⟨hinserted, hfirst, hregistered,
    (hcommon shutdown _ _ (fun _ => hfirst) (.refl ({} : ScriptedTransport))).1⟩

end RawProfile.Session

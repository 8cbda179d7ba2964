import Mathlib.Data.List.Induction
import RawProfile.Proofs.Session.Effects

/-!
# Starting again

A reset session is a new session of the same width with the sentinel that was set last
(`reset_runAll`), and a reset registry is a new registry in the same way (`reset_replay`). So
nothing that can be seen of the operations after a reset tells what was before it:
`observeAll_reset`.
-/

namespace RawProfile

namespace Registry

def Step.sentinel? : Step → Option UInt64
  | .withSentinel address => some address
  | _ => none

def lastSentinel (steps : List Step) : Option UInt64 := (steps.filterMap Step.sentinel?).getLast?

def new (recordSize : UInt64) : Option UInt64 → Registry
  | none => ofRecordSize recordSize
  | some address => (ofRecordSize recordSize).withSentinel address

theorem new_eq (recordSize : UInt64) (sentinel : Option UInt64) :
    new recordSize sentinel = { recordSize, sentinel } := by
  cases sentinel <;> rfl

theorem sentinel_step (r : Registry) (s : Step) :
    (r.step s).sentinel = s.sentinel?.or r.sentinel := by
  cases s with
  | registerData site => exact r.sentinel_registerData site
  | registerNames start length => rfl
  | withSentinel address => rfl
  | reset => rfl

theorem reset_replay (recordSize : UInt64) (steps : List Step) :
    ((ofRecordSize recordSize).replay steps).reset = new recordSize (lastSentinel steps) := by
  have hsentinel : ((ofRecordSize recordSize).replay steps).sentinel = lastSentinel steps :=
    (foldl_getLast? sentinel_step steps _).trans Option.or_none
  rw [reset, new_eq, recordSize_replay, hsentinel]
  rfl

end Registry

namespace Session

def lastSentinel (actions : List Action) : Option UInt64 :=
  (actions.filterMap Action.sentinel?).getLast?

def new (width : Width) : Option UInt64 → Session
  | none => ofWidth width
  | some address => (ofWidth width).withSentinel address

theorem new_eq (width : Width) (sentinel : Option UInt64) :
    new width sentinel = { registry := { recordSize := width.recordSize, sentinel }, width } := by
  cases sentinel <;> rfl

theorem reachable_runAll (width : Width) (ops : List Operation) :
    Reachable width ((ofWidth width).runAll ops) := by
  induction ops using List.reverseRecOn with
  | nil => exact .new
  | append_singleton ops op ih =>
    rw [runAll_concat]
    exact .perform op.action op.transport ih

theorem sentinel_runAll (s : Session) (ops : List Operation) :
    (s.runAll ops).registry.sentinel =
      (lastSentinel (ops.map Operation.action)).or s.registry.sentinel := by
  rw [session_runAll]
  exact foldl_getLast? Action.sentinel_registryAfter _ _

/-- After a reset nothing is left but the width and the sentinel. -/
theorem reset_runAll (width : Width) (ops : List Operation) :
    ((ofWidth width).runAll ops).reset =
      new width (lastSentinel (ops.map Operation.action)) := by
  have hreachable := reachable_runAll width ops
  have hsentinel := ((ofWidth width).sentinel_runAll ops).trans Option.or_none
  rw [reset, Registry.reset, new_eq, hreachable.recordSize, hreachable.eq_replay.1, hsentinel]
  rfl

/-! ## What can be seen -/

/-- What can be seen of an operation: its answer and its calls, and then what the session tells of
its registry and its gate. -/
structure Observation where
  answer : Answer
  calls : List Call
  extents : Extents
  registered : Nat
  isArmed : Bool
  hasFired : Bool

def observe (s : Session) (op : Operation) : Observation where
  answer := (s.perform op.action op.transport).value.1
  calls := (s.perform op.action op.transport).calls
  extents := (s.after op).registry.extents
  registered := (s.after op).registry.registered
  isArmed := (s.after op).gate.isArmed
  hasFired := (s.after op).gate.hasFired

def observeAll (s : Session) : List Operation → List Observation
  | [] => []
  | op :: ops => s.observe op :: (s.after op).observeAll ops

/-- The same operation, over transports that answer alike. -/
structure Operation.Alike (op op' : Operation) : Prop where
  action : op.action = op'.action
  transport : RawProfile.Alike op.transport op'.transport

variable {op op' : Operation} {ops ops' : List Operation}

theorem after_congr (s : Session) (h : op.Alike op') : s.after op = s.after op' := by
  rw [after, after, session_perform, session_perform, h.action]

theorem observe_congr (s : Session) (h : op.Alike op') : s.observe op = s.observe op' := by
  obtain ⟨hanswer, hcalls⟩ := answer_congr (s := s) rfl rfl op.action (fun _ => Iff.rfl) h.transport
  rw [observe, observe, after_congr s h, hanswer, hcalls, h.action]

theorem observeAll_congr (s : Session) (h : List.Forall₂ Operation.Alike ops ops') :
    s.observeAll ops = s.observeAll ops' := by
  induction h generalizing s with
  | nil => rfl
  | cons hop _ ih => rw [observeAll, observeAll, observe_congr s hop, after_congr s hop, ih]

/-- A reset cannot be told from a new start with the sentinel that was set last, neither at once nor
by any operations after it; and the same goes for a registry on its own. -/
theorem observeAll_reset (width : Width) (history : List Operation) :
    let s := (ofWidth width).runAll history
    let fresh := new width (lastSentinel (history.map Operation.action))
    s.reset = fresh ∧
    (∀ later later', List.Forall₂ Operation.Alike later later' →
      s.reset.observeAll later = fresh.observeAll later') ∧
    ∀ (recordSize : UInt64) (steps : List Registry.Step),
      ((Registry.ofRecordSize recordSize).replay steps).reset =
        Registry.new recordSize (Registry.lastSentinel steps) := by
  intro s fresh
  have hfresh : s.reset = fresh := reset_runAll width history
  refine ⟨hfresh, fun later later' h => ?_, Registry.reset_replay⟩
  rw [hfresh]
  exact observeAll_congr fresh h

end Session

end RawProfile

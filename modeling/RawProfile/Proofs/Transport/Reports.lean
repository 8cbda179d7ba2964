import RawProfile.Proofs.SegmentWriter.Chunks

/-!
# Who reported what

A log holds what a computation reports of its own accord and what the transport reports of the calls
made of it, in the order in which it happened. `reports t calls` is the second part, told from the
calls alone; `Merged` is how the parts make up a log. `Outcome.Moves` uses it to say which changes
of phase are a computation's own, over a transport that may report anything, changes of phase
included.
-/

namespace RawProfile

/-- Two lists as one, each in its order. -/
inductive Merged {α : Type} : List α → List α → List α → Prop where
  | nil : Merged [] [] []
  | left {x : α} {xs ys zs : List α} : Merged xs ys zs → Merged (x :: xs) ys (x :: zs)
  | right {y : α} {xs ys zs : List α} : Merged xs ys zs → Merged xs (y :: ys) (y :: zs)

namespace Merged

variable {α β : Type} {xs ys zs xs' ys' zs' : List α}

theorem append (h : Merged xs ys zs) (h' : Merged xs' ys' zs') :
    Merged (xs ++ xs') (ys ++ ys') (zs ++ zs') := by
  induction h with
  | nil => exact h'
  | left _ ih => exact .left ih
  | right _ ih => exact .right ih

theorem left_only (xs : List α) : Merged xs [] xs := by
  induction xs with
  | nil => exact .nil
  | cons x xs ih => exact .left ih

theorem right_only (ys : List α) : Merged [] ys ys := by
  induction ys with
  | nil => exact .nil
  | cons y ys ih => exact .right ih

/-- What the second list has nothing of is in the first as it is in both. -/
theorem filterMap_eq {f : α → Option β} (h : Merged xs ys zs) (hnone : ys.filterMap f = []) :
    zs.filterMap f = xs.filterMap f := by
  induction h with
  | nil => rfl
  | left _ ih => rw [List.filterMap_cons, List.filterMap_cons, ih hnone]
  | @right y _ _ _ _ ih =>
    rw [List.filterMap_cons] at hnone ⊢
    cases hy : f y with
    | none =>
      rw [hy] at hnone
      exact ih hnone
    | some b =>
      rw [hy] at hnone
      cases hnone

end Merged

/-- A change of phase, if the event is one. -/
def Event.transition? : Event → Option (Phase × Phase)
  | .phaseChanged source target => some (source, target)
  | _ => none

def transitions (log : List Event) : List (Phase × Phase) := log.filterMap Event.transition?

theorem transitions_append (log log' : List Event) :
    transitions (log ++ log') = transitions log ++ transitions log' := List.filterMap_append

theorem transitions_singleton (e : Event) : transitions [e] = e.transition?.toList := by
  rw [transitions, List.filterMap_cons]
  cases e.transition? <;> rfl

section Reports

variable {σ : Type} [Transport σ]

/-- What the transport itself reports of a call. -/
def Call.reports (t : σ) : Call → List Event
  | .openFile path _ => (Transport.openFile t path).events
  | .write handle bytes _ => (Transport.write t handle bytes).events
  | .close handle => (Transport.close t handle).events

def Call.next (t : σ) : Call → σ
  | .openFile path _ => (Transport.openFile t path).value.2
  | .write handle bytes _ => (Transport.write t handle bytes).value.2
  | .close handle => (Transport.close t handle).value

/-- What the transport itself reports of calls in a row. -/
def reports (t : σ) : List Call → List Event
  | [] => []
  | call :: calls => call.reports t ++ reports (call.next t) calls

theorem reports_append (t : σ) (calls rest : List Call) :
    reports t (calls ++ rest) = reports t calls ++ reports (calls.foldl Call.next t) rest := by
  induction calls generalizing t with
  | nil => rfl
  | cons call calls ih =>
    rw [List.cons_append, reports, ih, reports, List.append_assoc, List.foldl_cons]

end Reports

/-- Of its own accord, a computation that started at the transport `t` logged these changes of
phase; whatever else is in its log, the transport reported of the calls made. -/
structure Outcome.Moves {σ α : Type} [Transport σ] (o : Outcome σ α) (t : σ)
    (steps : List (Phase × Phase)) : Prop where
  transport : o.transport = o.calls.foldl Call.next t
  log : ∃ own, Merged own (reports t o.calls) o.events ∧ transitions own = steps

namespace Outcome.Moves

variable {σ α β : Type} [Transport σ] {t : σ} {steps steps' : List (Phase × Phase)}

theorem pure (a : α) (t : σ) : ((Pure.pure a : Run σ α) t).Moves t [] :=
  ⟨rfl, [], .nil, rfl⟩

theorem bind {x : Run σ α} {f : α → Run σ β} (h : (x t).Moves t steps)
    (h' : (f (x t).value (x t).transport).Moves (x t).transport steps') :
    ((x >>= f) t).Moves t (steps ++ steps') := by
  obtain ⟨own, hown, hsteps⟩ := h.log
  obtain ⟨own', hown', hsteps'⟩ := h'.log
  constructor
  · rw [Run.transport_bind, Run.calls_bind, List.foldl_append, ← h.transport, h'.transport]
  · refine ⟨own ++ own', ?_, ?_⟩
    · rw [Run.calls_bind, Run.events_bind, reports_append, ← h.transport]
      exact hown.append hown'
    · rw [transitions_append, hsteps, hsteps']

theorem quiet_bind {x : Run σ α} {f : α → Run σ β} (h : (x t).Moves t [])
    (h' : (f (x t).value (x t).transport).Moves (x t).transport steps) :
    ((x >>= f) t).Moves t steps :=
  .bind h h'

theorem ofLogged (x : Logged α) (t : σ) : (Run.ofLogged x t).Moves t (transitions x.events) :=
  ⟨rfl, x.events, .left_only _, rfl⟩

theorem report (e : Event) (t : σ) : (Run.report e t).Moves t e.transition?.toList :=
  ⟨rfl, [e], .left_only _, transitions_singleton e⟩

theorem report_bind {f : Unit → Run σ β} (e : Event) (h : (f () t).Moves t steps) :
    ((Run.report e >>= f) t).Moves t (e.transition?.toList ++ steps) :=
  .bind (.report e t) h

theorem transportName (t : σ) : (Run.transportName t).Moves t [] := ⟨rfl, [], .nil, rfl⟩

theorem of_call {o : Outcome σ α} (call : Call) (hcalls : o.calls = [call])
    (htransport : o.transport = call.next t) (hevents : o.events = call.reports t) :
    o.Moves t [] := by
  constructor
  · rw [hcalls, htransport]
    rfl
  · refine ⟨[], ?_, rfl⟩
    rw [hcalls, hevents, reports, reports, List.append_nil]
    exact .right_only _

theorem openFile (path : String) (t : σ) : (Run.openFile path t).Moves t [] :=
  .of_call (.openFile path _) rfl rfl rfl

theorem write (handle : Handle) (bytes : ByteArray) (t : σ) :
    (Run.write handle bytes t).Moves t [] :=
  .of_call (.write handle bytes _) rfl rfl rfl

theorem close (handle : Handle) (t : σ) : (Run.close handle t).Moves t [] :=
  .of_call (.close handle) rfl rfl rfl

/-- Over a transport that reports no change of phase, the log has no others. -/
theorem transitions_eq {o : Outcome σ α} (h : o.Moves t steps)
    (hquiet : transitions (reports t o.calls) = []) : transitions o.events = steps := by
  obtain ⟨own, hown, hsteps⟩ := h.log
  rw [← hsteps]
  exact hown.filterMap_eq hquiet

end Outcome.Moves

open Outcome (Moves)

namespace SegmentWriter

variable {σ : Type} [Transport σ]

/-! ## Sending changes no phase -/

theorem moves_sendChunk (w : SegmentWriter) (chunk : ByteArray) (t : σ) :
    (w.sendChunk chunk t).Moves t [] := by
  refine .quiet_bind (.write _ _ t) ?_
  dsimp only
  split
  · exact .quiet_bind (.transportName _) (.report_bind _ (.pure _ _))
  · exact .pure _ _

theorem moves_sendChunks (w : SegmentWriter) (chunks : List ByteArray) (t : σ) :
    (w.sendChunks chunks t).Moves t [] := by
  induction chunks generalizing w t with
  | nil => exact .pure _ _
  | cons chunk chunks ih =>
    refine .quiet_bind (moves_sendChunk w chunk t) ?_
    generalize w.sendChunk chunk t = o
    obtain ⟨⟨result, w'⟩, t', calls, events⟩ := o
    cases result with
    | error e => exact .pure _ _
    | ok u => exact ih w' t'

theorem moves_sendSegment (w : SegmentWriter) (segment : Segment) (t : σ) :
    (w.sendSegment segment t).Moves t [] := by
  rw [sendSegment, sendContent_eq]
  refine .quiet_bind (moves_sendChunks w segment.chunks t) ?_
  generalize w.sendChunks segment.chunks t = o
  obtain ⟨⟨result, w'⟩, t', calls, events⟩ := o
  cases result with
  | error e => exact .pure _ _
  | ok u => exact .pure _ _

end SegmentWriter

end RawProfile

import RawProfile.Dump
import RawProfile.Proofs.SegmentWriter.Chunks

/-!
# Transports that behave alike

`Alike s t`: two transports, perhaps of different kinds, that answer every sequence of calls alike.
What they are called and what they report may differ. `Run.Lockstep R x y`: over transports that are
related by `R`, two computations come to the same result by the same calls. Everything that sends a
file runs in lockstep with itself (`lockstep_send`), so a dump sees no more of a transport than its
answers.
-/

namespace RawProfile

variable {σ τ : Type}

/-- Related transports give the same answer to a call, and are related after it. -/
structure Bisimulation [Transport σ] [Transport τ] (R : σ → τ → Prop) : Prop where
  openFile : ∀ {s t}, R s t → ∀ path,
    (Transport.openFile s path).value.1 = (Transport.openFile t path).value.1 ∧
      R (Transport.openFile s path).value.2 (Transport.openFile t path).value.2
  write : ∀ {s t}, R s t → ∀ handle bytes,
    (Transport.write s handle bytes).value.1 = (Transport.write t handle bytes).value.1 ∧
      R (Transport.write s handle bytes).value.2 (Transport.write t handle bytes).value.2
  close : ∀ {s t}, R s t → ∀ handle,
    R (Transport.close s handle).value (Transport.close t handle).value

/-- Two transports that answer alike, now and after any calls. -/
def Alike [Transport σ] [Transport τ] (s : σ) (t : τ) : Prop :=
  ∃ R : σ → τ → Prop, Bisimulation R ∧ R s t

theorem Alike.refl [Transport σ] (t : σ) : Alike t t := by
  refine ⟨Eq, ⟨?_, ?_, ?_⟩, rfl⟩
  · rintro s _ rfl path
    exact ⟨rfl, rfl⟩
  · rintro s _ rfl handle bytes
    exact ⟨rfl, rfl⟩
  · rintro s _ rfl handle
    rfl

namespace Run

variable {R : σ → τ → Prop} {α β : Type}

/-- Over related transports, two computations have the same result and make the same calls. -/
def Lockstep (R : σ → τ → Prop) (x : Run σ α) (y : Run τ α) : Prop :=
  ∀ s t, R s t → (x s).value = (y t).value ∧ (x s).calls = (y t).calls ∧
    R (x s).transport (y t).transport

namespace Lockstep

variable {x : Run σ α} {y : Run τ α}

theorem pure (a : α) : Lockstep R (Pure.pure a) (Pure.pure a) := fun _ _ h => ⟨rfl, rfl, h⟩

theorem bind {f : α → Run σ β} {g : α → Run τ β} (hx : Lockstep R x y)
    (hf : ∀ a, Lockstep R (f a) (g a)) : Lockstep R (x >>= f) (y >>= g) := by
  intro s t h
  obtain ⟨hvalue, hcalls, htransport⟩ := hx s t h
  obtain ⟨hvalue', hcalls', htransport'⟩ := hf (x s).value _ _ htransport
  rw [value_bind, value_bind, calls_bind, calls_bind, transport_bind, transport_bind, ← hvalue,
    hcalls, hcalls']
  exact ⟨hvalue', rfl, htransport'⟩

theorem ofLogged {x y : Logged α} (h : x.value = y.value) :
    Lockstep R (Run.ofLogged x) (Run.ofLogged y) := fun _ _ ht => ⟨h, rfl, ht⟩

theorem report (e e' : Event) : Lockstep R (Run.report e) (Run.report e') := ofLogged rfl

theorem enter (phase next : Phase) {body : Unit → Run σ α} {body' : Unit → Run τ α}
    (h : Lockstep R (body ()) (body' ())) :
    Lockstep R (if phase ≠ next then Run.report (.phaseChanged phase next) >>= body else body ())
      (if phase ≠ next then Run.report (.phaseChanged phase next) >>= body' else body' ()) := by
  split
  · exact .bind (.report _ _) fun _ => h
  · exact h

variable [Transport σ] [Transport τ]

/-- The names of transports are only asked for to report them. -/
theorem reportNamed {f g : String → Event} {k : Unit → Run σ α} {k' : Unit → Run τ α}
    (h : Lockstep R (k ()) (k' ())) :
    Lockstep R (transportName >>= fun name => Run.report (f name) >>= k)
      (transportName >>= fun name => Run.report (g name) >>= k') := h

variable (h : Bisimulation R)

include h

theorem openFile (path : String) : Lockstep R (Run.openFile path) (Run.openFile path) := by
  intro s t ht
  obtain ⟨hanswer, hnext⟩ := h.openFile ht path
  exact ⟨hanswer, congrArg (fun answer => [Call.openFile path answer]) hanswer, hnext⟩

theorem write (handle : Handle) (bytes : ByteArray) :
    Lockstep R (Run.write handle bytes) (Run.write handle bytes) := by
  intro s t ht
  obtain ⟨hanswer, hnext⟩ := h.write ht handle bytes
  exact ⟨hanswer, congrArg (fun answer => [Call.write handle bytes answer]) hanswer, hnext⟩

theorem close (handle : Handle) : Lockstep R (Run.close handle) (Run.close handle) :=
  fun _ _ ht => ⟨rfl, rfl, h.close ht handle⟩

end Lockstep

end Run

open Run (Lockstep)

variable [Transport σ] [Transport τ] {R : σ → τ → Prop} (h : Bisimulation R)

include h

namespace SegmentWriter

theorem lockstep_sendChunk (w : SegmentWriter) (chunk : ByteArray) :
    Lockstep R (w.sendChunk chunk) (w.sendChunk chunk) := by
  refine .bind (.write h _ _) fun answer => ?_
  dsimp only
  split
  · exact .reportNamed (.pure _)
  · exact .pure _

theorem lockstep_sendChunks (w : SegmentWriter) (chunks : List ByteArray) :
    Lockstep R (w.sendChunks chunks) (w.sendChunks chunks) := by
  induction chunks generalizing w with
  | nil => exact .pure _
  | cons chunk chunks ih =>
    refine .bind (lockstep_sendChunk h w chunk) fun ⟨result, w⟩ => ?_
    cases result with
    | error e => exact .pure _
    | ok u => exact ih w

theorem lockstep_sendSegment (w : SegmentWriter) (segment : Segment) :
    Lockstep R (w.sendSegment segment) (w.sendSegment segment) := by
  rw [sendSegment, sendSegment, sendContent_eq, sendContent_eq]
  refine .bind (lockstep_sendChunks h w _) fun ⟨result, w⟩ => ?_
  cases result with
  | error e => exact .pure _
  | ok u => exact .pure _

theorem lockstep_sendSegments (w : SegmentWriter) (segments : List Segment) :
    Lockstep R (w.sendSegments segments) (w.sendSegments segments) := by
  induction segments generalizing w with
  | nil => exact .pure _
  | cons segment segments ih =>
    refine .bind (lockstep_sendSegment h w segment) fun ⟨result, w⟩ => ?_
    cases result with
    | error e => exact .pure _
    | ok u => exact ih w

end SegmentWriter

namespace Dump

theorem lockstep_emit (phase : Phase) (w : SegmentWriter) (segments : List (Phase × Segment)) :
    Lockstep R (emit phase w segments) (emit phase w segments) := by
  induction segments generalizing phase w with
  | nil => exact .pure _
  | cons s rest ih =>
    obtain ⟨next, segment⟩ := s
    rw [emit, emit]
    refine .enter phase next (.bind (SegmentWriter.lockstep_sendSegments h w _) fun sent => ?_)
    obtain ⟨result, w⟩ := sent
    cases result with
    | error e => exact .pure _
    | ok u => exact ih next w

theorem lockstep_send (p : Plan) (fileName : String) :
    Lockstep R (send p fileName) (send p fileName) := by
  refine .bind (.report _ _) fun _ => .bind (.openFile h _) fun answer => ?_
  cases answer with
  | error e => exact .reportNamed (.bind (.report _ _) fun _ => .pure _)
  | ok handle =>
    refine .bind (lockstep_emit h _ _ _) fun ⟨result, w, phase⟩ =>
      .bind (.close h _) fun _ => .bind (.report _ _) fun _ => ?_
    cases result with
    | error e => exact .pure _
    | ok u => exact .bind (.report _ _) fun _ => .pure _

omit [Transport τ] h in
theorem fst_writeTo (d : Dump) (fileName : String) :
    (return (← d.writeTo fileName).1 : Run σ _) = Run.ofLogged d.plan >>= fun
      | .error e => pure (.error e)
      | .ok p => send p fileName := by
  rw [writeTo, bind_assoc]
  congr 1
  funext planned
  cases planned with
  | error e => rfl
  | ok p => rw [bind_assoc]; exact bind_pure _

/-- What is dumped shows in the plan alone. -/
theorem lockstep_writeTo {d d' : Dump} (hplan : d.plan.value = d'.plan.value) (fileName : String) :
    Lockstep R (return (← d.writeTo fileName).1) (return (← d'.writeTo fileName).1) := by
  rw [fst_writeTo, fst_writeTo]
  refine .bind (.ofLogged hplan) fun planned => ?_
  cases planned with
  | error e => exact .pure _
  | ok p => exact lockstep_send h p fileName

end Dump

end RawProfile

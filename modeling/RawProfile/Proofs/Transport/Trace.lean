import RawProfile.Proofs.SegmentWriter.Delivery
import RawProfile.Dump

/-!
# Calls and the states between them

`Served t calls t'`: a transport, asked for these calls, gives these answers and comes from `t` to
`t'`. Whatever sends a file leaves its transport where its calls lead (`served_writeTo`), so what is
left in a transport after a dump is told from the calls of the dump. `Served.writes` is the
induction over the writes of a file, for any fact that one write carries on.
-/

namespace RawProfile

variable {σ : Type} [Transport σ]

/-- Asked for the call, the transport gives this answer and goes on to the next state. -/
def Call.Serves (t t' : σ) : Call → Prop
  | .openFile path answer => (Transport.openFile t path).value = (answer, t')
  | .write handle bytes answer => (Transport.write t handle bytes).value = (answer, t')
  | .close handle => (Transport.close t handle).value = t'

/-- The same for calls in a row. -/
def Served (t : σ) : List Call → σ → Prop
  | [], t' => t' = t
  | call :: calls, t' => ∃ next, call.Serves t next ∧ Served next calls t'

namespace Served

variable {t t' t'' : σ} {calls rest : List Call}

theorem one {call : Call} (h : call.Serves t t') : Served t [call] t' := ⟨t', h, rfl⟩

theorem append_iff :
    Served t (calls ++ rest) t'' ↔ ∃ t', Served t calls t' ∧ Served t' rest t'' := by
  induction calls generalizing t with
  | nil => exact ⟨fun h => ⟨t, rfl, h⟩, fun ⟨_, h, h'⟩ => h ▸ h'⟩
  | cons call calls ih =>
    constructor
    · rintro ⟨next, hfirst, hrest⟩
      obtain ⟨t', hcalls, hrest⟩ := ih.1 hrest
      exact ⟨t', ⟨next, hfirst, hcalls⟩, hrest⟩
    · rintro ⟨t', ⟨next, hfirst, hcalls⟩, hrest⟩
      exact ⟨next, hfirst, ih.2 ⟨t', hcalls, hrest⟩⟩

theorem writes {handle : Handle} {P : List Sent → σ → Prop}
    (hstep : ∀ past s t t', P past t → (s.call handle).Serves t t' → P (past ++ [s]) t')
    {past sent : List Sent} (h : Served t (sent.map (·.call handle)) t') (hstart : P past t) :
    P (past ++ sent) t' := by
  induction sent generalizing past t with
  | nil =>
    cases h
    rwa [List.append_nil]
  | cons s sent ih =>
    obtain ⟨next, hfirst, hrest⟩ := h
    rw [List.append_cons]
    exact ih hrest (hstep past s t next hstart hfirst)

end Served

/-! ## Computations -/

/-- A computation that leaves its transport where its calls lead. -/
structure Run.Traced {α : Type} (x : Run σ α) : Prop where
  served : ∀ t, Served t (x t).calls (x t).transport

namespace Run.Traced

variable {α β : Type}

theorem pure (a : α) : Traced (Pure.pure a : Run σ α) := ⟨fun _ => rfl⟩

theorem bind {x : Run σ α} {f : α → Run σ β} (hx : Traced x) (hf : ∀ a, Traced (f a)) :
    Traced (x >>= f) :=
  ⟨fun t => Served.append_iff.2 ⟨_, hx.served t, (hf _).served _⟩⟩

theorem ofLogged (x : Logged α) : Traced (Run.ofLogged x : Run σ α) := ⟨fun _ => rfl⟩

theorem report (e : Event) : Traced (Run.report e : Run σ Unit) := ofLogged _

theorem enter (phase next : Phase) {body : Unit → Run σ α} (h : Traced (body ())) :
    Traced (if phase ≠ next then Run.report (.phaseChanged phase next) >>= body else body ()) := by
  split
  · exact .bind (.report _) fun _ => h
  · exact h

theorem transportName : Traced (Run.transportName : Run σ String) := ⟨fun _ => rfl⟩

theorem openFile (path : String) : Traced (Run.openFile path : Run σ _) := ⟨fun _ => .one rfl⟩

theorem write (handle : Handle) (bytes : ByteArray) : Traced (Run.write handle bytes : Run σ _) :=
  ⟨fun _ => .one rfl⟩

theorem close (handle : Handle) : Traced (Run.close handle : Run σ _) := ⟨fun _ => .one rfl⟩

end Run.Traced

open Run (Traced)

namespace SegmentWriter

theorem traced_sendChunk (w : SegmentWriter) (chunk : ByteArray) :
    Traced (w.sendChunk chunk : Run σ _) := by
  refine .bind (.write _ _) fun answer => ?_
  dsimp only
  split
  · exact .bind .transportName fun _ => .bind (.report _) fun _ => .pure _
  · exact .pure _

theorem traced_sendChunks (w : SegmentWriter) (chunks : List ByteArray) :
    Traced (w.sendChunks chunks : Run σ _) := by
  induction chunks generalizing w with
  | nil => exact .pure _
  | cons chunk chunks ih =>
    refine .bind (traced_sendChunk w chunk) fun sent => ?_
    obtain ⟨result, w⟩ := sent
    cases result with
    | error e => exact .pure _
    | ok u => exact ih w

theorem traced_sendSegment (w : SegmentWriter) (segment : Segment) :
    Traced (w.sendSegment segment : Run σ _) := by
  rw [sendSegment, sendContent_eq]
  refine .bind (traced_sendChunks w _) fun sent => ?_
  obtain ⟨result, w⟩ := sent
  cases result with
  | error e => exact .pure _
  | ok u => exact .pure _

end SegmentWriter

namespace Dump

theorem traced_emit (phase : Phase) (w : SegmentWriter) (segments : List (Phase × Segment)) :
    Traced (emit phase w segments : Run σ _) := by
  induction segments generalizing phase w with
  | nil => exact .pure _
  | cons s rest ih =>
    obtain ⟨next, segment⟩ := s
    rw [emit]
    refine .enter phase next ?_
    dsimp only
    rw [SegmentWriter.sendSegments_singleton]
    refine .bind (SegmentWriter.traced_sendSegment w segment) fun sent => ?_
    obtain ⟨result, w⟩ := sent
    cases result with
    | error e => exact .pure _
    | ok u => exact ih next w

theorem traced_send (p : Plan) (fileName : String) : Traced (send p fileName : Run σ _) := by
  refine .bind (.report _) fun _ => .bind (.openFile _) fun answer => ?_
  cases answer with
  | error e =>
    exact .bind .transportName fun _ => .bind (.report _) fun _ => .bind (.report _) fun _ =>
      .pure _
  | ok handle =>
    refine .bind (traced_emit _ _ _) fun sent =>
      .bind (.close _) fun _ => .bind (.report _) fun _ => ?_
    obtain ⟨result, w, phase⟩ := sent
    cases result with
    | error e => exact .pure _
    | ok u => exact .bind (.report _) fun _ => .pure _

/-- A dump leaves the transport where its calls lead. -/
theorem served_writeTo (d : Dump) (fileName : String) (t : σ) :
    Served t (d.writeTo fileName t).calls (d.writeTo fileName t).transport := by
  suffices Traced (d.writeTo fileName : Run σ _) from this.served t
  refine .bind (.ofLogged _) fun planned => ?_
  cases planned with
  | error e => exact .pure _
  | ok p => exact .bind (traced_send p fileName) fun _ => .pure _

end Dump

end RawProfile

import Mathlib.Logic.ExistsUnique
import RawProfile.Proofs.Dump.Plan

/-!
# The calls of a dump

What a transport sees of a dump, whatever it answers. `delivered_emit`: the segments of a plan are
delivered in order, chunk by chunk, and `send_opened` that the file is closed afterwards. `Ending`
are the four ways in which a dump can end; `existsUnique_ending` is that every dump ends in one of
them, with the calls, the answer and the phase that go with it.
-/

namespace RawProfile

variable {σ : Type} [Transport σ]

namespace Dump

section Enter

variable {α : Type} (phase next : Phase) (body : Unit → Run σ α) (t : σ)

omit [Transport σ] in
theorem value_enter :
    ((if phase ≠ next then Run.report (.phaseChanged phase next) >>= body else body ()) t).value =
      (body () t).value := by
  split <;> rfl

omit [Transport σ] in
theorem calls_enter :
    ((if phase ≠ next then Run.report (.phaseChanged phase next) >>= body else body ()) t).calls =
      (body () t).calls := by
  split <;> rfl

end Enter

def numberedChunks (first : Nat) (segments : List (Phase × Segment)) : List (Nat × ByteArray) :=
  (segments.zipIdx first).flatMap fun s => SegmentWriter.numbered s.2 s.1.2.chunks

theorem delivered_emit (phase : Phase) (w : SegmentWriter) (segments : List (Phase × Segment))
    (t : σ) :
    ∃ credit, Delivered w.handle (numberedChunks w.segmentsWritten segments)
        (emit phase w segments t).calls (emit phase w segments t).value.1 credit ∧
      (emit phase w segments t).value.2.1.bytesWritten = w.bytesWritten + credit := by
  induction segments generalizing phase w t with
  | nil => exact ⟨0, .nil w.handle, rfl⟩
  | cons s rest ih =>
    obtain ⟨next, segment⟩ := s
    obtain ⟨credit, hsegment, hw⟩ := SegmentWriter.delivered_sendSegment w segment t
    rw [emit, value_enter, calls_enter]
    dsimp only
    rw [SegmentWriter.sendSegments_singleton, Run.bind_apply]
    rw [numberedChunks, List.zipIdx_cons, List.flatMap_cons]
    generalize w.sendSegment segment t = o at hsegment hw
    obtain ⟨⟨result, w'⟩, t', calls, events⟩ := o
    change w' = w.advanced result credit at hw
    subst hw
    cases result with
    | error e =>
      refine ⟨credit, ?_, rfl⟩
      simpa using hsegment.append_of_error _
    | ok u =>
      obtain ⟨credit', hrest, hw'⟩ := ih next (w.advanced (.ok ()) credit) t'
      refine ⟨credit + credit', hsegment.append hrest, ?_⟩
      rw [← Nat.add_assoc]
      exact hw'

/-! ## Opening, sending, closing -/

variable {d : Dump} {p : Plan} {fileName : String} {t : σ}

theorem openFile_apply {answer : Except OpenError Handle}
    (h : (Transport.openFile t fileName).value.1 = answer) :
    Run.openFile fileName t = ⟨answer, (Transport.openFile t fileName).value.2,
      [.openFile fileName answer], (Transport.openFile t fileName).events⟩ := by
  subst h
  rfl

theorem send_unopened {e : OpenError} (h : (Transport.openFile t fileName).value.1 = .error e) :
    (send p fileName t).value = .error (.cannotOpen e) ∧
      (send p fileName t).calls = [.openFile fileName (.error e)] := by
  have hreport : (Run.report (.phaseChanged .idle .openingTransport) t).transport = t := rfl
  simp only [send, Run.bind_apply, hreport, openFile_apply h]
  exact ⟨rfl, rfl⟩

/-- A file that was opened is closed, whatever came of the writes. -/
theorem send_opened {handle : Handle} (h : (Transport.openFile t fileName).value.1 = .ok handle) :
    ∃ calls result credit, Delivered handle p.chunks calls result credit ∧
      (send p fileName t).calls = .openFile fileName (.ok handle) :: calls ++ [.close handle] ∧
      (send p fileName t).value =
        (result.map fun _ => ⟨p.header, credit⟩).mapError .shortWrite := by
  have hreport : (Run.report (.phaseChanged .idle .openingTransport) t).transport = t := rfl
  obtain ⟨credit, hsent, hcredit⟩ := delivered_emit .openingTransport { handle } p.segments
    (Transport.openFile t fileName).value.2
  simp only [send, Run.bind_apply, hreport, openFile_apply h]
  generalize emit .openingTransport { handle } p.segments
    (Transport.openFile t fileName).value.2 = o at hsent hcredit
  obtain ⟨⟨result, w, phase⟩, t', calls, events⟩ := o
  refine ⟨calls, result, credit, hsent, ?_, ?_⟩
  · cases result with
    | error e => rfl
    | ok u => rfl
  · cases result with
    | error e => rfl
    | ok u =>
      have hw : w.bytesWritten = credit := by rw [← Nat.zero_add credit]; exact hcredit
      rw [← hw]
      rfl

theorem writeTo_unplanned {e : DumpError} (h : d.plan.value = .error e) :
    (d.writeTo fileName t).value = (.error e, { d with phase := .idle }) ∧
      (d.writeTo fileName t).transport = t ∧ (d.writeTo fileName t).calls = [] := by
  have hplan : Run.ofLogged d.plan t = ⟨.error e, t, [], d.plan.events⟩ := by
    rw [← h]
    rfl
  simp only [writeTo, Run.bind_apply, hplan]
  exact ⟨rfl, rfl, rfl⟩

theorem writeTo_planned (h : d.plan.value = .ok p) (fileName : String) (t : σ) :
    (d.writeTo fileName t).value = ((send p fileName t).value, { d with phase := .closed }) ∧
      (d.writeTo fileName t).calls = (send p fileName t).calls := by
  have hplan : Run.ofLogged d.plan t = ⟨.ok p, t, [], d.plan.events⟩ := by
    rw [← h]
    rfl
  simp only [writeTo, Run.bind_apply, hplan]
  exact ⟨rfl, List.append_nil _⟩

/-! ## How a dump ends -/

/-- The four ways in which a dump can end. -/
inductive Ending where
  | unplanned
  | unopened
  | complete
  | cutShort
  deriving DecidableEq, Repr

/-- What goes with an ending: why the dump ended so, its answer and phase, and every call that it
made. -/
def Ending.Describes (d : Dump) (fileName : String) (t : σ) : Ending → Prop
  | .unplanned => ∃ e, d.plan.value = .error e ∧ (∀ f, e ≠ .fault f) ∧
      (d.writeTo fileName t).value = (.error e, { d with phase := .idle }) ∧
      (d.writeTo fileName t).transport = t ∧ (d.writeTo fileName t).calls = []
  | .unopened => ∃ p e, d.plan.value = .ok p ∧
      (Transport.openFile t fileName).value.1 = .error e ∧
      (d.writeTo fileName t).value = (.error (.cannotOpen e), { d with phase := .closed }) ∧
      (d.writeTo fileName t).calls = [.openFile fileName (.error e)]
  | .complete => ∃ p handle, ∃ sent : List Sent, d.plan.value = .ok p ∧
      (Transport.openFile t fileName).value.1 = .ok handle ∧
      sent.map Sent.chunk = p.writes ∧ (∀ s ∈ sent, s.Whole) ∧
      (d.writeTo fileName t).value =
        (.ok ⟨p.header, chunksLength p.writes⟩, { d with phase := .closed }) ∧
      (d.writeTo fileName t).calls =
        .openFile fileName (.ok handle) :: sent.map (·.call handle) ++ [.close handle]
  | .cutShort => ∃ p handle, ∃ (sent : List Sent) (last : Sent) (rest : List (Nat × ByteArray)),
      d.plan.value = .ok p ∧ (Transport.openFile t fileName).value.1 = .ok handle ∧
      sent.map Sent.chunk ++ last.chunk :: rest = p.writes ∧
      (∀ s ∈ sent, s.Whole) ∧ last.taken < last.bytes.size ∧
      (d.writeTo fileName t).value = (.error (.shortWrite
        { segment := last.segment, requested := last.bytes.size, transferred := last.taken }),
        { d with phase := .closed }) ∧
      (d.writeTo fileName t).calls =
        .openFile fileName (.ok handle) :: (sent ++ [last]).map (·.call handle) ++ [.close handle]

namespace Ending

/-- The ending that a plan, the answer to opening and the answer of the dump come to. -/
def of : Except DumpError Plan → Except OpenError Handle → Except DumpError Summary → Ending
  | .error _, _, _ => .unplanned
  | .ok _, .error _, _ => .unopened
  | .ok _, .ok _, .ok _ => .complete
  | .ok _, .ok _, .error _ => .cutShort

def ofDump (d : Dump) (fileName : String) (t : σ) : Ending :=
  .of d.plan.value (Transport.openFile t fileName).value.1 (d.writeTo fileName t).value.1

/-- No two endings go with one dump. -/
theorem Describes.eq_ofDump {ending : Ending} (h : ending.Describes d fileName t) :
    ending = ofDump d fileName t := by
  unfold ofDump
  cases ending with
  | unplanned =>
    obtain ⟨e, hplan, _⟩ := h
    rw [hplan]
    rfl
  | unopened =>
    obtain ⟨p, e, hplan, hopen, _⟩ := h
    rw [hplan, hopen]
    rfl
  | complete =>
    obtain ⟨p, handle, sent, hplan, hopen, _, _, hvalue, _⟩ := h
    rw [hplan, hopen, hvalue]
    rfl
  | cutShort =>
    obtain ⟨p, handle, sent, last, rest, hplan, hopen, _, _, _, hvalue, _⟩ := h
    rw [hplan, hopen, hvalue]
    rfl

theorem describes_of_opened {handle : Handle} (hplan : d.plan.value = .ok p)
    (hopen : (Transport.openFile t fileName).value.1 = .ok handle) :
    Describes d fileName t .complete ∨ Describes d fileName t .cutShort := by
  obtain ⟨calls, result, credit, hsent, hcalls, hvalue⟩ := send_opened (p := p) hopen
  obtain ⟨hvalue', hcalls'⟩ := writeTo_planned hplan fileName t
  rw [hcalls] at hcalls'
  rw [hvalue] at hvalue'
  rw [(plan_eq_ok_iff.1 hplan).chunks_eq] at hsent
  cases hsent with
  | whole sent hchunks hwhole =>
    exact .inl ⟨p, handle, sent, hplan, hopen, hchunks, hwhole, hvalue', hcalls'⟩
  | short sent last rest hchunks hwhole hshort =>
    refine .inr ⟨p, handle, sent, last, rest, hplan, hopen, hchunks, hwhole, Nat.not_le.1 hshort,
      hvalue', ?_⟩
    rw [hcalls', List.map_append]
    rfl

end Ending

theorem exists_ending (d : Dump) (fileName : String) (t : σ) :
    ∃ ending : Ending, ending.Describes d fileName t := by
  cases hplan : d.plan.value with
  | error e =>
    exact ⟨.unplanned, e, hplan, ne_fault_of_plan hplan, writeTo_unplanned hplan⟩
  | ok p =>
    obtain ⟨hvalue, hcalls⟩ := writeTo_planned hplan fileName t
    cases hopen : (Transport.openFile t fileName).value.1 with
    | error e =>
      obtain ⟨hsend, hsendCalls⟩ := send_unopened (p := p) hopen
      exact ⟨.unopened, p, e, hplan, hopen, hvalue.trans (by rw [hsend]), hcalls.trans hsendCalls⟩
    | ok handle =>
      rcases Ending.describes_of_opened hplan hopen with h | h
      · exact ⟨.complete, h⟩
      · exact ⟨.cutShort, h⟩

theorem Ending.describes_complete {summary : Summary}
    (h : (d.writeTo fileName t).value.1 = .ok summary) : Describes d fileName t .complete := by
  obtain ⟨ending, hending⟩ := exists_ending d fileName t
  cases ending with
  | complete => exact hending
  | unplanned =>
    obtain ⟨e, -, -, hvalue, -⟩ := hending
    rw [hvalue] at h
    cases h
  | unopened =>
    obtain ⟨p, e, -, -, hvalue, -⟩ := hending
    rw [hvalue] at h
    cases h
  | cutShort =>
    obtain ⟨p, handle, sent, last, rest, -, -, -, -, -, hvalue, -⟩ := hending
    rw [hvalue] at h
    cases h

/-- No dump ends with a fault. -/
theorem writeTo_ne_fault (d : Dump) (fileName : String) (t : σ) (f : WordFault) :
    (d.writeTo fileName t).value.1 ≠ .error (.fault f) := by
  obtain ⟨ending, hending⟩ := exists_ending d fileName t
  cases ending with
  | unplanned =>
    obtain ⟨e, -, hfault, hvalue, -⟩ := hending
    rw [hvalue]
    exact fun h => hfault f (Except.error.inj h)
  | unopened =>
    obtain ⟨p, e, -, -, hvalue, -⟩ := hending
    simp [hvalue]
  | complete =>
    obtain ⟨p, handle, sent, -, -, -, -, hvalue, -⟩ := hending
    simp [hvalue]
  | cutShort =>
    obtain ⟨p, handle, sent, last, rest, -, -, -, -, -, hvalue, -⟩ := hending
    simp [hvalue]

/-- Over any transport, a dump ends in exactly one of the four ways. -/
theorem existsUnique_ending (d : Dump) (fileName : String) (t : σ) :
    ∃! ending : Ending, ending.Describes d fileName t := by
  obtain ⟨ending, h⟩ := exists_ending d fileName t
  refine ⟨ending, h, fun other h' => ?_⟩
  rw [h.eq_ofDump, h'.eq_ofDump]

end Dump

end RawProfile

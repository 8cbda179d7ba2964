import RawProfile.Proofs.Dump.Protocol
import RawProfile.Proofs.Transport.Reports

/-!
# The phases of a dump

A dump that is planned goes through its phases in one chain that starts from idle, and its answer
tells which: `Trail`. The phases are entered as the segments come up, each once (`emitted_emit`),
whether there is something to send or not, and closing follows on the segment that failed as on the
last one. `uses_trail` is about a dump that is used again and again: between its uses it is idle or
closed, and every write starts a new chain.
-/

namespace RawProfile

/-- Changes of phase in a row, each from where the last one led. -/
def chain (start : Phase) : List Phase → List (Phase × Phase)
  | [] => []
  | p :: phases => (start, p) :: chain p phases

theorem chain_concat (start p : Phase) (phases : List Phase) :
    chain start (phases ++ [p]) = chain start phases ++ [(phases.getLastD start, p)] := by
  induction phases generalizing start with
  | nil => rfl
  | cons q phases ih =>
    rw [List.cons_append, chain, ih, chain, List.cons_append, List.getLastD_cons]

/-- The phases of a list that come up anew. -/
def entered (start : Phase) : List Phase → List Phase
  | [] => []
  | p :: phases => if start ≠ p then p :: entered p phases else entered start phases

theorem getLastD_entered (start : Phase) (phases : List Phase) :
    (entered start phases).getLastD start = phases.getLastD start := by
  induction phases generalizing start with
  | nil => rfl
  | cons p phases ih =>
    rw [entered, List.getLastD_cons]
    split
    · rw [List.getLastD_cons, ih]
    · next h => rw [ih, Decidable.not_not.1 h]

/-- The phases in which a file is sent, in order. -/
def emitting : List Phase :=
  [.emittingHeader, .emittingData, .emittingCounters, .emittingBitmap, .emittingNames,
    .emittingPadding]

namespace Dump

variable {σ : Type} [Transport σ]

open Outcome (Moves)

/-! ## Sending segments -/

/-- The phases of the segments that came up: all of them, or those up to the one that failed. -/
inductive CameUp (first : Nat) (segments : List (Phase × Segment)) :
    Except ShortWrite Unit → List Phase → Prop where
  | all : CameUp first segments (.ok ()) (segments.map (·.1))
  | upTo (i : Nat) (e : ShortWrite) : i < segments.length → e.segment = first + i →
      CameUp first segments (.error e) ((segments.take (i + 1)).map (·.1))

theorem CameUp.cons {first : Nat} {segments : List (Phase × Segment)} {phases : List Phase}
    {result : Except ShortWrite Unit} (h : CameUp (first + 1) segments result phases) (p : Phase)
    (segment : Segment) : CameUp first ((p, segment) :: segments) result (p :: phases) := by
  cases h with
  | all => exact .all
  | upTo i e hi he =>
    refine .upTo (i + 1) e (Nat.succ_lt_succ hi) ?_
    rw [he, Nat.add_assoc, Nat.add_comm 1 i]

/-- What an emission has come to that started in a phase: which phases came up, and that it went
through them and stands in the last one. -/
def Emitted (phase : Phase) (first : Nat) (segments : List (Phase × Segment)) (t : σ)
    (o : Outcome σ (Except ShortWrite Unit × SegmentWriter × Phase)) : Prop :=
  ∃ phases, CameUp first segments o.value.1 phases ∧
    o.Moves t (chain phase (entered phase phases)) ∧ o.value.2.2 = phases.getLastD phase

theorem emitted_enter {phase next : Phase} {first : Nat} {segments : List (Phase × Segment)}
    {body : Unit → Run σ (Except ShortWrite Unit × SegmentWriter × Phase)} {t : σ}
    (h : ∃ phases, CameUp first segments (body () t).value.1 (next :: phases) ∧
      (body () t).Moves t (chain next (entered next phases)) ∧
      (body () t).value.2.2 = phases.getLastD next) :
    Emitted phase first segments t
      ((if phase ≠ next then Run.report (.phaseChanged phase next) >>= body else body ()) t) := by
  obtain ⟨phases, hcame, hmoves, hphase⟩ := h
  refine ⟨next :: phases, ?_, ?_, ?_⟩
  · rw [value_enter]
    exact hcame
  · rw [entered]
    split
    · exact .report_bind _ hmoves
    · next hsame =>
      rw [Decidable.not_not.1 hsame]
      exact hmoves
  · rw [value_enter, List.getLastD_cons]
    exact hphase

/-- Segments are sent in the phases that they belong to. -/
theorem emitted_emit (phase : Phase) (w : SegmentWriter) (segments : List (Phase × Segment))
    (t : σ) : Emitted phase w.segmentsWritten segments t (emit phase w segments t) := by
  induction segments generalizing phase w t with
  | nil => exact ⟨[], .all, .pure _ _, rfl⟩
  | cons s rest ih =>
    obtain ⟨next, segment⟩ := s
    obtain ⟨credit, hsegment, hw⟩ := SegmentWriter.delivered_sendSegment w segment t
    have hquiet := SegmentWriter.moves_sendSegment w segment t
    rw [emit]
    refine emitted_enter ?_
    dsimp only
    rw [SegmentWriter.sendSegments_singleton]
    cases hresult : (w.sendSegment segment t).value.1 with
    | error e =>
      rw [hresult] at hsegment hw
      have hbody : (w.sendSegment segment t).value = (.error e, w.advanced (.error e) credit) :=
        Prod.ext hresult hw
      refine ⟨[], ?_, ?_, ?_⟩
      · rw [Run.value_bind, hbody]
        exact .upTo 0 e (Nat.succ_pos _) (SegmentWriter.segment_of_delivered hsegment)
      · refine .quiet_bind hquiet ?_
        rw [hbody]
        exact .pure _ _
      · rw [Run.value_bind, hbody]
        rfl
    | ok u =>
      rw [hresult] at hw
      have hbody : (w.sendSegment segment t).value = (.ok (), w.advanced (.ok ()) credit) :=
        Prod.ext hresult hw
      obtain ⟨phases, hcame, hmoves, hphase⟩ :=
        ih next (w.advanced (.ok ()) credit) (w.sendSegment segment t).transport
      refine ⟨phases, ?_, ?_, ?_⟩
      · rw [Run.value_bind, hbody]
        exact hcame.cons next segment
      · refine .quiet_bind hquiet ?_
        rw [hbody]
        exact hmoves
      · rw [Run.value_bind, hbody]
        exact hphase

/-! ## From opening to closing -/

/-- The phases that a dump goes through from idle, given its plan and its answer. -/
inductive Trail : Except DumpError Plan → Except DumpError Summary → List Phase → Prop where
  | unplanned (e : DumpError) : Trail (.error e) (.error e) []
  | unopened (p : Plan) (e : OpenError) :
      Trail (.ok p) (.error (.cannotOpen e)) [.openingTransport, .closed]
  | complete (p : Plan) (summary : Summary) :
      Trail (.ok p) (.ok summary) (.openingTransport :: emitting ++ [.closed])
  /-- Closing follows on the phase of the segment that was cut short. -/
  | cutShort (p : Plan) (e : ShortWrite) (owner : Phase) (segment : Segment) :
      p.segments[e.segment]? = some (owner, segment) →
      Trail (.ok p) (.error (.shortWrite e))
        (.openingTransport :: (emitting.takeWhile (· ≠ owner) ++ [owner]) ++ [.closed])

def owners : List Phase :=
  [.emittingHeader, .emittingData, .emittingCounters, .emittingBitmap, .emittingBitmap,
    .emittingNames, .emittingPadding]

theorem entered_owners : entered .openingTransport owners = emitting := by decide

theorem entered_take_owners : ∀ i : Fin owners.length,
    entered .openingTransport (owners.take (i + 1)) =
      emitting.takeWhile (· ≠ owners[i]) ++ [owners[i]] := by
  decide

theorem trail_of_cameUp {p : Plan} {result : Except ShortWrite Unit} {phases : List Phase}
    (h : CameUp 0 p.segments result phases) (summary : Summary) :
    Trail (.ok p) ((result.map fun _ => summary).mapError .shortWrite)
      (.openingTransport :: entered .openingTransport phases ++ [.closed]) := by
  have howners : p.segments.map (·.1) = owners := rfl
  cases h with
  | all =>
    rw [howners, entered_owners]
    exact .complete p summary
  | upTo i e hi he =>
    rw [List.map_take, howners, entered_take_owners ⟨i, hi⟩]
    refine .cutShort p e owners[i] p.segments[i].2 ?_
    rw [he, Nat.zero_add, List.getElem?_eq_getElem hi]
    have howner : p.segments[i].1 = owners[i] := (List.getElem_map _).symm
    rw [← howner]

/-- A plan is sent in phases that start from idle and end with closing. -/
theorem exists_trail_send (p : Plan) (fileName : String) (t : σ) :
    ∃ targets, Trail (.ok p) (send p fileName t).value targets ∧
      (send p fileName t).Moves t (chain .idle targets) := by
  cases hopen : (Transport.openFile t fileName).value.1 with
  | error e =>
    refine ⟨[.openingTransport, .closed], ?_, ?_⟩
    · rw [(send_unopened hopen).1]
      exact .unopened p e
    · rw [send]
      refine .report_bind _ (.quiet_bind (.openFile fileName t) ?_)
      rw [openFile_apply hopen]
      exact .quiet_bind (.transportName _) (.report_bind _ (.report_bind _ (.pure _ _)))
  | ok handle =>
    obtain ⟨phases, hcame, hmoves, hphase⟩ := emitted_emit .openingTransport { handle } p.segments
      (Transport.openFile t fileName).value.2
    refine ⟨.openingTransport :: entered .openingTransport phases ++ [.closed], ?_, ?_⟩
    · have hreport : (Run.report (.phaseChanged .idle .openingTransport) t).transport = t := rfl
      simp only [send, Run.value_bind, hreport, openFile_apply hopen]
      generalize emit .openingTransport { handle } p.segments
        (Transport.openFile t fileName).value.2 = o at hcame
      obtain ⟨⟨result, w, phase⟩, t', calls, events⟩ := o
      have htrail := trail_of_cameUp hcame ⟨p.header, w.bytesWritten⟩
      cases result with
      | error e => exact htrail
      | ok u => exact htrail
    · rw [send, List.cons_append, chain, chain_concat, getLastD_entered, ← hphase]
      refine .report_bind _ (.quiet_bind (.openFile fileName t) ?_)
      rw [openFile_apply hopen]
      refine .bind hmoves ?_
      generalize emit .openingTransport { handle } p.segments
        (Transport.openFile t fileName).value.2 = o
      obtain ⟨⟨result, w, phase⟩, t', calls, events⟩ := o
      refine .quiet_bind (.close handle t') (.report_bind _ ?_)
      cases result with
      | error e => exact .pure _ _
      | ok u => exact .report_bind _ (.pure _ _)

theorem transitions_plan (d : Dump) : transitions d.plan.events = [] := by
  rw [plan]
  split <;> rfl

theorem exists_trail_writeTo (d : Dump) (fileName : String) (t : σ) :
    ∃ targets, Trail d.plan.value (d.writeTo fileName t).value.1 targets ∧
      (d.writeTo fileName t).Moves t (chain .idle targets) := by
  have hquiet : (Run.ofLogged d.plan t).Moves t [] := by
    rw [← d.transitions_plan]
    exact .ofLogged d.plan t
  cases hplan : d.plan.value with
  | error e =>
    refine ⟨[], ?_, .quiet_bind hquiet ?_⟩
    · rw [(writeTo_unplanned hplan).1]
      exact .unplanned e
    · rw [show (Run.ofLogged d.plan t).value = .error e from hplan]
      exact .pure _ _
  | ok p =>
    obtain ⟨targets, htrail, hmoves⟩ := exists_trail_send p fileName t
    refine ⟨targets, ?_, .quiet_bind hquiet ?_⟩
    · rw [(writeTo_planned hplan fileName t).1]
      exact htrail
    · rw [show (Run.ofLogged d.plan t).value = .ok p from hplan, ← List.append_nil (chain _ _)]
      exact .bind hmoves (.pure _ _)

/-- The phase that a dump is left in by a write with this plan. -/
def leftIn : Except DumpError Plan → Phase
  | .error _ => .idle
  | .ok _ => .closed

theorem dump_writeTo (d : Dump) (fileName : String) (t : σ) :
    (d.writeTo fileName t).value.2 = { d with phase := leftIn d.plan.value } := by
  cases hplan : d.plan.value with
  | error e => rw [(writeTo_unplanned hplan).1, leftIn]
  | ok p => rw [(writeTo_planned hplan fileName t).1, leftIn]

theorem Trail.getLastD_eq {planned : Except DumpError Plan} {answer : Except DumpError Summary}
    {targets : List Phase} (h : Trail planned answer targets) :
    targets.getLastD .idle = leftIn planned := by
  cases h with
  | unplanned e => rfl
  | unopened p e => rfl
  | complete p summary => rfl
  | cutShort p e owner segment hsegment =>
    rw [List.getLastD_concat]
    rfl

/-! ## Uses in a row -/

inductive Use : Type 1 where
  | plan (image : MemoryImage)
  | writeTo (image : MemoryImage) (fileName : String) {σ : Type} [Transport σ] (t : σ)

namespace Use

def after (d : Dump) : Use → Dump
  | plan image => { d with image }
  | writeTo image fileName t => (Dump.writeTo { d with image } fileName t).value.2

/-- What came of the planning, if the use was a write. -/
def planned? (d : Dump) : Use → Option (Except DumpError Plan)
  | plan _ => none
  | writeTo image _ _ => some (Dump.plan { d with image }).value

end Use

/-- The plan of the last write, if there was a write. -/
def lastPlanned? (d : Dump) (uses : List Use) : Option (Except DumpError Plan) :=
  (uses.filterMap (Use.planned? d)).getLast?

/-- Only writes set the phase. -/
theorem phase_after (d : Dump) (use : Use) :
    (use.after d).phase = ((use.planned? d).map leftIn).getD d.phase := by
  cases use with
  | plan image => rfl
  | writeTo image fileName t =>
    rw [Use.after, dump_writeTo]
    rfl

/-- What the plans come to does not depend on the uses before them. -/
theorem planned?_after (d : Dump) (use : Use) : Use.planned? (use.after d) = Use.planned? d := by
  funext other
  cases use with
  | plan image => cases other <;> rfl
  | writeTo image fileName t =>
    rw [Use.after, dump_writeTo]
    cases other <;> rfl

theorem lastPlanned?_cons (d : Dump) (use : Use) (uses : List Use) :
    lastPlanned? d (use :: uses) = (lastPlanned? (use.after d) uses).or (use.planned? d) := by
  rw [lastPlanned?, lastPlanned?, planned?_after, List.filterMap_cons]
  cases use.planned? d with
  | none => rw [Option.or_none]
  | some planned => rw [List.getLast?_cons, Option.or_some]

theorem phase_uses (d : Dump) (uses : List Use) :
    (uses.foldl Use.after d).phase = ((lastPlanned? d uses).map leftIn).getD d.phase := by
  induction uses generalizing d with
  | nil => rfl
  | cons use uses ih =>
    rw [List.foldl_cons, ih, phase_after, lastPlanned?_cons]
    cases lastPlanned? (use.after d) uses <;> rfl

/-- A dump that is used again and again is idle or closed between its uses: closed if the last write
was planned, idle if it was not or if there was none. Whatever it went through before, planning it
again changes no phase, and a write of it goes through one chain of phases from idle. -/
theorem uses_trail (registry : Registry) (width : Width) (image image' : MemoryImage)
    (earlier : List Use) (fileName : String) (t : σ) :
    let fresh : Dump := { registry, image, width }
    let d : Dump := earlier.foldl Use.after fresh
    let last := lastPlanned? fresh earlier
    (d.phase = .idle ∧ (last = none ∨ ∃ e, last = some (.error e)) ∨
      d.phase = .closed ∧ ∃ p, last = some (.ok p)) ∧
    let d' : Dump := (Use.plan image').after d
    (d'.phase = d.phase ∧ transitions d'.plan.events = []) ∧
    ∃ targets, Trail d'.plan.value (d'.writeTo fileName t).value.1 targets ∧
      (d'.writeTo fileName t).value.2.phase = targets.getLastD .idle ∧
      (d'.writeTo fileName t).Moves t (chain .idle targets) ∧
      (transitions (reports t (d'.writeTo fileName t).calls) = [] →
        transitions (d'.writeTo fileName t).events = chain .idle targets) := by
  intro fresh d last
  refine ⟨?_, ⟨rfl, transitions_plan _⟩, ?_⟩
  · have hphase : d.phase = (last.map leftIn).getD .idle := phase_uses fresh earlier
    rw [hphase]
    cases last with
    | none => exact .inl ⟨rfl, .inl rfl⟩
    | some planned =>
      cases planned with
      | error e => exact .inl ⟨rfl, .inr ⟨e, rfl⟩⟩
      | ok p => exact .inr ⟨rfl, p, rfl⟩
  · obtain ⟨targets, htrail, hmoves⟩ :=
      exists_trail_writeTo ((Use.plan image').after d) fileName t
    refine ⟨targets, htrail, ?_, hmoves, hmoves.transitions_eq⟩
    rw [dump_writeTo, htrail.getLastD_eq]

end Dump

end RawProfile

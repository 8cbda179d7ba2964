import Mathlib.Algebra.BigOperators.Group.List.Basic
import Mathlib.Algebra.Ring.Nat
import RawProfile.Proofs.SegmentWriter.Delivery

/-!
# A writer that is used again

Lists of segments are sent one after the other through the same writer, also after one of them
failed. A `Turn` is one such call with all that it asked of the transport. `Turn.Accounted` reads
off the transport's answers alone what the turn has to have come to: which chunks went out, where
the turn stopped, its result, and the two counts of the writer, which run over all turns.
`accounted_turns` is that every turn is accounted for, and that it makes no difference into how many
calls a list of segments is cut.
-/

namespace RawProfile

/-- How many segments are whole once so many chunks of theirs have been taken. An empty segment is
whole as soon as its turn comes. -/
def wholeSegments : List Segment → (chunks : Nat) → Nat
  | [], _ => 0
  | s :: segments, chunks =>
    if s.chunks.length ≤ chunks then wholeSegments segments (chunks - s.chunks.length) + 1 else 0

def Call.write? : Call → Option (ByteArray × Nat)
  | .write _ bytes answer => some (bytes, answer)
  | _ => none

/-- A call on a writer: what was to be sent, what the transport was asked and what it answered, what
came of it, and the writer after it. -/
structure Turn where
  segments : List Segment
  calls : List Call
  result : Except ShortWrite Unit
  writer : SegmentWriter

namespace Turn

def chunks (turn : Turn) : List ByteArray := turn.segments.flatMap Segment.chunks

def writes (turn : Turn) : List (ByteArray × Nat) := turn.calls.filterMap Call.write?

/-- The number of segments that the transport took whole. -/
def completed (turn : Turn) : Nat :=
  wholeSegments turn.segments (turn.writes.countP fun s => s.1.size ≤ s.2)

/-- The bytes that the transport took, and no more than it was given. -/
def credit (turn : Turn) : Nat := (turn.writes.map fun s => min s.2 s.1.size).sum

/-- What the answers of the transport make of a turn, when so many segments were whole before it. -/
structure Answered (handle : Handle) (first : Nat) (turn : Turn) : Prop where
  calls : turn.calls = turn.writes.map fun s => .write handle s.1 s.2
  writes : turn.writes.map (·.1) <+: turn.chunks
  /-- Nothing goes out after a chunk that was cut short. -/
  whole : ∀ s ∈ turn.writes.dropLast, s.1.size ≤ s.2
  ok_iff : turn.result = .ok () ↔
    turn.writes.map (·.1) = turn.chunks ∧ ∀ s ∈ turn.writes, s.1.size ≤ s.2
  error_iff : ∀ e, turn.result = .error e ↔ ∃ bytes answer,
    turn.writes.getLast? = some (bytes, answer) ∧ answer < bytes.size ∧
      e = ⟨first + turn.completed, bytes.size, answer⟩

/-- A turn and the counts of the writer after it agree with the answers of the transport, in this
turn and in those before it. -/
structure Accounted (handle : Handle) (past : List Turn) (turn : Turn) : Prop extends
    Answered handle (past.map completed).sum turn where
  segmentsWritten : turn.writer.segmentsWritten = (past.map completed).sum + turn.completed
  bytesWritten : turn.writer.bytesWritten = (past.map credit).sum + turn.credit

end Turn

/-! ## Chunks and the segments they belong to -/

def numberedSegments (first : Nat) : List Segment → List (Nat × ByteArray)
  | [] => []
  | s :: segments =>
    SegmentWriter.numbered first s.chunks ++ numberedSegments (first + 1) segments

theorem map_snd_numberedSegments (first : Nat) (segments : List Segment) :
    (numberedSegments first segments).map (·.2) = segments.flatMap Segment.chunks := by
  induction segments generalizing first with
  | nil => rfl
  | cons s segments ih =>
    rw [numberedSegments, List.map_append, ih, List.flatMap_cons, List.map_map]
    exact congrArg (· ++ _) (List.map_id _)

theorem wholeSegments_all (segments : List Segment) :
    wholeSegments segments (segments.flatMap Segment.chunks).length = segments.length := by
  induction segments with
  | nil => rfl
  | cons s segments ih =>
    rw [List.flatMap_cons, List.length_append, wholeSegments, if_pos (Nat.le_add_right _ _),
      Nat.add_sub_cancel_left, ih, List.length_cons]

/-- A chunk belongs to the segment after those that the chunks before it make whole. -/
theorem segment_eq {first : Nat} {segments : List Segment} {before rest : List (Nat × ByteArray)}
    {chunk : Nat × ByteArray} (h : before ++ chunk :: rest = numberedSegments first segments) :
    chunk.1 = first + wholeSegments segments before.length := by
  induction segments generalizing first before with
  | nil => exact absurd h (by simp [numberedSegments])
  | cons s segments ih =>
    have hlength : (SegmentWriter.numbered first s.chunks).length = s.chunks.length :=
      List.length_map _
    rw [numberedSegments] at h
    rw [wholeSegments]
    by_cases hle : s.chunks.length ≤ before.length
    · have hown : SegmentWriter.numbered first s.chunks <+: before :=
        List.prefix_of_prefix_length_le ⟨_, h.symm⟩ ⟨_, rfl⟩ (hlength ▸ hle)
      obtain ⟨later, rfl⟩ := hown
      rw [List.append_assoc] at h
      have hlater := ih (List.append_cancel_left h)
      rw [if_pos hle, hlater, List.length_append, hlength, Nat.add_sub_cancel_left]
      omega
    · have hchunk : (before ++ chunk :: rest)[before.length]? = some chunk := by simp
      rw [h, List.getElem?_append_left (by rw [hlength]; exact Nat.lt_of_not_le hle)] at hchunk
      obtain ⟨bytes, -, rfl⟩ := List.mem_map.1 (List.mem_of_getElem? hchunk)
      rw [if_neg hle, Nat.add_zero]

namespace SegmentWriter

variable {σ : Type} [Transport σ]

/-- The number of the next segment after segments that came to a result: that of the segment that
failed, if one did. -/
def nextSegment (first : Nat) (segments : List Segment) : Except ShortWrite Unit → Nat
  | .ok () => first + segments.length
  | .error e => e.segment

/-- The writer after segments that came to a result. -/
def settled (w : SegmentWriter) (segments : List Segment) (result : Except ShortWrite Unit)
    (credit : Nat) : SegmentWriter :=
  { w.credited credit with segmentsWritten := nextSegment w.segmentsWritten segments result }

theorem settled_advanced (w : SegmentWriter) (s : Segment) (segments : List Segment)
    (result : Except ShortWrite Unit) (credit credit' : Nat) :
    (w.advanced (.ok ()) credit).settled segments result credit' =
      w.settled (s :: segments) result (credit + credit') := by
  cases result with
  | error e => simp only [settled, nextSegment, advanced, credited, Nat.add_assoc]
  | ok u =>
    simp only [settled, nextSegment, advanced, credited, List.length_cons, Nat.add_assoc,
      Nat.add_comm 1 segments.length]

/-- A segment that failed has the number that the writer still has. -/
theorem settled_of_error {w : SegmentWriter} {s : Segment} {segments : List Segment}
    {calls : List Call} {e : ShortWrite} {credit : Nat}
    (h : Delivered w.handle (numbered w.segmentsWritten s.chunks) calls (.error e) credit) :
    w.advanced (.error e) credit = w.settled (s :: segments) (.error e) credit := by
  simp only [advanced, settled, nextSegment, credited, segment_of_delivered h]

theorem delivered_sendSegments (w : SegmentWriter) (segments : List Segment) (t : σ) :
    ∃ credit, Delivered w.handle (numberedSegments w.segmentsWritten segments)
        (w.sendSegments segments t).calls (w.sendSegments segments t).value.1 credit ∧
      (w.sendSegments segments t).value.2 =
        w.settled segments (w.sendSegments segments t).value.1 credit := by
  induction segments generalizing w t with
  | nil => exact ⟨0, .nil w.handle, rfl⟩
  | cons s segments ih =>
    obtain ⟨credit, hsegment, hw⟩ := delivered_sendSegment w s t
    rw [sendSegments, Run.bind_apply, numberedSegments]
    generalize w.sendSegment s t = o at hsegment hw
    obtain ⟨⟨result, w'⟩, t', calls, events⟩ := o
    change w' = w.advanced result credit at hw
    subst hw
    cases result with
    | error e =>
      exact ⟨credit, by simpa using hsegment.append_of_error _, settled_of_error hsegment⟩
    | ok u =>
      obtain ⟨credit', hrest, hw'⟩ := ih (w.advanced (.ok ()) credit) t'
      refine ⟨credit + credit', hsegment.append hrest, ?_⟩
      rw [← settled_advanced]
      exact hw'

end SegmentWriter

/-! ## Deliveries as turns -/

def Sent.write (s : Sent) : ByteArray × Nat := (s.bytes, s.taken)

theorem filterMap_write?_calls (handle : Handle) (sent : List Sent) :
    (sent.map (·.call handle)).filterMap Call.write? = sent.map Sent.write := by
  rw [List.filterMap_map]
  exact congrFun List.filterMap_eq_map' sent

theorem map_fst_writes (sent : List Sent) :
    (sent.map Sent.write).map (·.1) = (sent.map Sent.chunk).map (·.2) := by
  rw [List.map_map, List.map_map]
  rfl

theorem countP_writes {sent : List Sent} (h : ∀ s ∈ sent, s.Whole) :
    (sent.map Sent.write).countP (fun s => s.1.size ≤ s.2) = sent.length := by
  rw [List.countP_map, List.countP_eq_length]
  intro s hs
  exact decide_eq_true (h s hs)

theorem sum_writes {sent : List Sent} (h : ∀ s ∈ sent, s.Whole) :
    ((sent.map Sent.write).map fun s => min s.2 s.1.size).sum =
      chunksLength (sent.map Sent.chunk) := by
  induction sent with
  | nil => rfl
  | cons s sent ih =>
    obtain ⟨hs, hsent⟩ := List.forall_mem_cons.1 h
    rw [List.map_cons, List.map_cons, List.sum_cons, ih hsent]
    exact congrArg (· + _) (Nat.min_eq_right hs)

namespace Turn

variable {handle : Handle} {first : Nat}

theorem answered_of_whole {segments : List Segment} {sent : List Sent} (writer : SegmentWriter)
    (hsent : sent.map Sent.chunk = numberedSegments first segments) (hwhole : ∀ s ∈ sent, s.Whole) :
    let turn : Turn := ⟨segments, sent.map (·.call handle), .ok (), writer⟩
    turn.Answered handle first ∧ turn.completed = segments.length ∧
      turn.credit = chunksLength (numberedSegments first segments) := by
  intro turn
  have hwrites : turn.writes = sent.map Sent.write := filterMap_write?_calls handle sent
  have hchunks : turn.writes.map (·.1) = turn.chunks := by
    rw [hwrites, map_fst_writes, hsent, map_snd_numberedSegments]
    rfl
  have htaken : ∀ s ∈ turn.writes, s.1.size ≤ s.2 := by
    rw [hwrites]
    exact List.forall_mem_map.2 hwhole
  have hlength : sent.length = (segments.flatMap Segment.chunks).length := by
    have := congrArg List.length hchunks
    rwa [hwrites, List.length_map, List.length_map] at this
  refine ⟨⟨?_, ?_, ?_, ?_, ?_⟩, ?_, ?_⟩
  · rw [hwrites, List.map_map]
    rfl
  · exact hchunks ▸ List.prefix_rfl
  · exact fun s hs => htaken s (List.dropLast_subset _ hs)
  · exact ⟨fun _ => ⟨hchunks, htaken⟩, fun _ => rfl⟩
  · intro e
    refine ⟨fun h => (by cases h), ?_⟩
    rintro ⟨bytes, answer, hlast, hshort, -⟩
    exact absurd (htaken _ (List.mem_of_getLast? hlast)) (Nat.not_le.2 hshort)
  · rw [completed, hwrites, countP_writes hwhole, hlength]
    exact wholeSegments_all segments
  · rw [Turn.credit, hwrites, sum_writes hwhole, hsent]

theorem answered_of_short {segments : List Segment} {sent : List Sent} {last : Sent}
    {rest : List (Nat × ByteArray)} (writer : SegmentWriter)
    (hsent : sent.map Sent.chunk ++ last.chunk :: rest = numberedSegments first segments)
    (hwhole : ∀ s ∈ sent, s.Whole) (hshort : ¬ last.Whole) :
    let turn : Turn :=
      ⟨segments, sent.map (·.call handle) ++ [last.call handle], .error last.error, writer⟩
    turn.Answered handle first ∧ last.segment = first + turn.completed ∧
      turn.credit = chunksLength (sent.map Sent.chunk) + last.taken := by
  intro turn
  have hless : last.taken < last.bytes.size := Nat.not_le.1 hshort
  have hwrites : turn.writes = sent.map Sent.write ++ [last.write] := by
    rw [Turn.writes, List.filterMap_append, filterMap_write?_calls]
    rfl
  have hchunks : turn.chunks = turn.writes.map (·.1) ++ rest.map (·.2) := by
    rw [Turn.chunks, ← map_snd_numberedSegments first, ← hsent, hwrites, List.map_append,
      List.map_append, map_fst_writes, List.append_assoc]
    rfl
  have hlast : turn.writes.getLast? = some last.write := by rw [hwrites, List.getLast?_concat]
  have hcompleted : last.segment = first + turn.completed := by
    have hcount : (turn.writes.countP fun s => s.1.size ≤ s.2) = sent.length := by
      rw [hwrites, List.countP_append, countP_writes hwhole]
      simpa [Sent.write] using hless
    have hlength : (sent.map Sent.chunk).length = sent.length := List.length_map _
    rw [completed, hcount, ← hlength]
    exact segment_eq hsent
  refine ⟨⟨?_, ?_, ?_, ?_, ?_⟩, hcompleted, ?_⟩
  · rw [hwrites, List.map_append, List.map_map]
    rfl
  · exact ⟨_, hchunks.symm⟩
  · rw [hwrites, List.dropLast_concat]
    exact List.forall_mem_map.2 hwhole
  · refine ⟨fun h => (by cases h), ?_⟩
    rintro ⟨-, htaken⟩
    exact absurd (htaken _ (List.mem_of_getLast? hlast)) hshort
  · intro e
    rw [hlast]
    constructor
    · intro h
      cases h
      refine ⟨_, _, rfl, hless, ?_⟩
      rw [← hcompleted]
      rfl
    · rintro ⟨bytes, answer, h, -, rfl⟩
      cases h
      rw [← hcompleted]
      rfl
  · rw [Turn.credit, hwrites, List.map_append, List.sum_append, sum_writes hwhole]
    exact congrArg (_ + ·) (Nat.min_eq_left (Nat.le_of_lt hless))

theorem answered_of_delivered (turn : Turn) {credit : Nat}
    (h : Delivered handle (numberedSegments first turn.segments) turn.calls turn.result credit) :
    turn.Answered handle first ∧
      SegmentWriter.nextSegment first turn.segments turn.result = first + turn.completed ∧
      turn.credit = credit := by
  obtain ⟨segments, calls, result, writer⟩ := turn
  cases h with
  | whole sent hsent hwhole =>
    obtain ⟨hanswered, hcompleted, hcredit⟩ := answered_of_whole writer hsent hwhole
    exact ⟨hanswered, congrArg (first + ·) hcompleted.symm, hcredit⟩
  | short sent last rest hsent hwhole hshort =>
    exact answered_of_short writer hsent hwhole hshort

end Turn

/-! ## Turns in a row -/

namespace SegmentWriter

variable {σ : Type} [Transport σ]

def turn (w : SegmentWriter) (segments : List Segment) (t : σ) : Turn :=
  let o := w.sendSegments segments t
  ⟨segments, o.calls, o.value.1, o.value.2⟩

/-- Calls on a writer, one after the other, whatever comes of them. -/
def turns (w : SegmentWriter) (t : σ) : List (List Segment) → List Turn
  | [] => []
  | segments :: lists =>
    w.turn segments t ::
      turns (w.turn segments t).writer (w.sendSegments segments t).transport lists

/-- One call adds to the counts of the writer what the transport's answers say. -/
theorem answered_turn (w : SegmentWriter) (segments : List Segment) (t : σ) :
    (w.turn segments t).Answered w.handle w.segmentsWritten ∧
      (w.turn segments t).writer =
        { w with
          segmentsWritten := w.segmentsWritten + (w.turn segments t).completed
          bytesWritten := w.bytesWritten + (w.turn segments t).credit } := by
  obtain ⟨credit, hsent, hw⟩ := delivered_sendSegments w segments t
  obtain ⟨hanswered, hnext, hcredit⟩ := (w.turn segments t).answered_of_delivered hsent
  refine ⟨hanswered, ?_⟩
  rw [← hnext, hcredit]
  exact hw

/-- The counts of the writer are those of the turns that it has behind it. -/
structure Counted (w : SegmentWriter) (past : List Turn) : Prop where
  segmentsWritten : w.segmentsWritten = (past.map Turn.completed).sum
  bytesWritten : w.bytesWritten = (past.map Turn.credit).sum

theorem Counted.turn {w : SegmentWriter} {past : List Turn} (h : w.Counted past)
    (segments : List Segment) (t : σ) :
    (w.turn segments t).Accounted w.handle past ∧
      (w.turn segments t).writer.Counted (past ++ [w.turn segments t]) ∧
      (w.turn segments t).writer.handle = w.handle := by
  obtain ⟨hanswered, hwriter⟩ := answered_turn w segments t
  rw [h.segmentsWritten] at hanswered
  rw [h.segmentsWritten, h.bytesWritten] at hwriter
  refine ⟨⟨hanswered, by rw [hwriter], by rw [hwriter]⟩, ⟨?_, ?_⟩, by rw [hwriter]⟩
  · rw [List.map_append, List.sum_append, hwriter]
    rfl
  · rw [List.map_append, List.sum_append, hwriter]
    rfl

theorem Counted.turns {w : SegmentWriter} {past : List Turn} (h : w.Counted past) (t : σ)
    {lists : List (List Segment)} {earlier later : List Turn} {turn : Turn}
    (hturns : w.turns t lists = earlier ++ turn :: later) :
    turn.Accounted w.handle (past ++ earlier) := by
  induction lists generalizing w t past earlier with
  | nil => simp [SegmentWriter.turns] at hturns
  | cons segments lists ih =>
    obtain ⟨haccounted, hcounted, hhandle⟩ := h.turn segments t
    cases earlier with
    | nil =>
      obtain ⟨rfl, -⟩ := List.cons.inj hturns
      rwa [List.append_nil]
    | cons first earlier =>
      obtain ⟨rfl, hrest⟩ := List.cons.inj hturns
      rw [List.append_cons, ← hhandle]
      exact ih hcounted _ hrest

theorem map_segments_turns (w : SegmentWriter) (t : σ) (lists : List (List Segment)) :
    (w.turns t lists).map Turn.segments = lists := by
  induction lists generalizing w t with
  | nil => rfl
  | cons segments lists ih => exact congrArg (segments :: ·) (ih _ _)

/-! ## Cutting a list -/

/-- Sends pieces of a list of segments, each by a call of its own, up to the first that fails. -/
def sendPieces (w : SegmentWriter) :
    List (List Segment) → Run σ (Except ShortWrite Unit × SegmentWriter)
  | [] => return (.ok (), w)
  | piece :: pieces => w.sendSegments piece >>= onward fun w => w.sendPieces pieces

theorem sendSegments_cons (w : SegmentWriter) (segment : Segment) (segments : List Segment) :
    (w.sendSegments (segment :: segments) : Run σ _) =
      w.sendSegment segment >>= onward fun w => w.sendSegments segments := rfl

omit [Transport σ] in
theorem onward_bind (next after : SegmentWriter → Run σ (Except ShortWrite Unit × SegmentWriter))
    (sent : Except ShortWrite Unit × SegmentWriter) :
    (onward next sent >>= onward after) = onward (fun w => next w >>= onward after) sent := by
  obtain ⟨result, w⟩ := sent
  cases result with
  | error e => exact pure_bind _ _
  | ok u => rfl

theorem sendSegments_append (w : SegmentWriter) (segments rest : List Segment) :
    (w.sendSegments (segments ++ rest) : Run σ _) =
      w.sendSegments segments >>= onward fun w => w.sendSegments rest := by
  induction segments generalizing w with
  | nil => exact (pure_bind _ _).symm
  | cons segment segments ih =>
    simp only [List.cons_append, sendSegments_cons, bind_assoc, onward_bind, ih]

theorem sendPieces_eq (w : SegmentWriter) (pieces : List (List Segment)) :
    (w.sendPieces pieces : Run σ _) = w.sendSegments pieces.flatten := by
  induction pieces generalizing w with
  | nil => rfl
  | cons piece pieces ih =>
    simp only [sendPieces, List.flatten_cons, sendSegments_append, ih]

/-- Each call on a writer sends the chunks of its segments up to the first that is cut short, and
the counts go on from call to call, after failures too. Segments that are sent in several calls are
sent as if in one. -/
theorem accounted_turns (handle : Handle) (t : σ) (lists : List (List Segment)) :
    let turns := turns { handle } t lists
    turns.map Turn.segments = lists ∧
    (∀ past turn later, turns = past ++ turn :: later → turn.Accounted handle past) ∧
    ∀ (w : SegmentWriter) (pieces : List (List Segment)),
      (w.sendPieces pieces : Run σ _) = w.sendSegments pieces.flatten := by
  intro turns
  have hfresh : ({ handle } : SegmentWriter).Counted [] := ⟨rfl, rfl⟩
  refine ⟨map_segments_turns _ t lists, fun past turn later hturns => ?_, sendPieces_eq⟩
  exact hfresh.turns t hturns

end SegmentWriter

end RawProfile

import RawProfile.Proofs.SegmentWriter.Chunks

/-!
# What reaches the transport

`Delivered handle chunks calls result credit`: the numbered strings `chunks` were written through
`handle` in order, either all of them whole or up to and with the first that was cut short. It fixes
the calls made, the result, and the bytes that the transport took. A writer delivers the chunks of
its segments, each numbered by its segment (`delivered_sendChunks`, `delivered_sendSegment`), and
deliveries follow one another as the strings do (`Delivered.append`).
-/

namespace RawProfile

/-- A numbered string that was written, and how much of it the transport said it took. -/
structure Sent where
  segment : Nat
  bytes : ByteArray
  taken : Nat

namespace Sent

def chunk (s : Sent) : Nat × ByteArray := (s.segment, s.bytes)

def call (handle : Handle) (s : Sent) : Call := .write handle s.bytes s.taken

def Whole (s : Sent) : Prop := s.bytes.size ≤ s.taken

def error (s : Sent) : ShortWrite := ⟨s.segment, s.bytes.size, s.taken⟩

end Sent

def joined (strings : List ByteArray) : ByteArray := strings.foldr (· ++ ·) .empty

def Call.payload : Call → ByteArray
  | .write _ bytes _ => bytes
  | _ => .empty

/-- The bytes that calls hand over, one after the other. -/
def written (calls : List Call) : ByteArray := joined (calls.map Call.payload)

theorem joined_append (xs ys : List ByteArray) : joined (xs ++ ys) = joined xs ++ joined ys := by
  induction xs with
  | nil => exact ByteArray.empty_append.symm
  | cons x xs ih =>
    change x ++ joined (xs ++ ys) = x ++ joined xs ++ joined ys
    rw [ih, ByteArray.append_assoc]

def chunksLength : List (Nat × ByteArray) → Nat
  | [] => 0
  | chunk :: chunks => chunk.2.size + chunksLength chunks

theorem chunksLength_append (chunks rest : List (Nat × ByteArray)) :
    chunksLength (chunks ++ rest) = chunksLength chunks + chunksLength rest := by
  induction chunks with
  | nil => exact (Nat.zero_add _).symm
  | cons chunk chunks ih => rw [List.cons_append, chunksLength, ih, chunksLength, Nat.add_assoc]

theorem size_joined (chunks : List (Nat × ByteArray)) :
    (joined (chunks.map (·.2))).size = chunksLength chunks := by
  induction chunks with
  | nil => rfl
  | cons c chunks ih =>
    change (c.2 ++ joined (chunks.map (·.2))).size = c.2.size + chunksLength chunks
    rw [ByteArray.size_append, ih]

theorem written_sent (path : String) (answer : Except OpenError Handle) (handle : Handle)
    (sent : List Sent) :
    written (.openFile path answer :: sent.map (·.call handle) ++ [.close handle]) =
      joined ((sent.map Sent.chunk).map (·.2)) := by
  have hpayload : (sent.map (·.call handle)).map Call.payload =
      (sent.map Sent.chunk).map (·.2) := by
    rw [List.map_map, List.map_map]
    rfl
  rw [written, List.map_append, joined_append, List.map_cons, hpayload]
  change .empty ++ joined _ ++ joined [.empty] = _
  rw [ByteArray.empty_append, show joined [.empty] = .empty from ByteArray.empty_append,
    ByteArray.append_empty]

/-- The strings went out in order, all of them or up to the first that was cut short. -/
inductive Delivered (handle : Handle) (chunks : List (Nat × ByteArray)) :
    List Call → Except ShortWrite Unit → Nat → Prop where
  | whole (sent : List Sent) : sent.map Sent.chunk = chunks → (∀ s ∈ sent, s.Whole) →
      Delivered handle chunks (sent.map (·.call handle)) (.ok ()) (chunksLength chunks)
  | short (sent : List Sent) (last : Sent) (rest : List (Nat × ByteArray)) :
      sent.map Sent.chunk ++ last.chunk :: rest = chunks → (∀ s ∈ sent, s.Whole) → ¬ last.Whole →
      Delivered handle chunks (sent.map (·.call handle) ++ [last.call handle]) (.error last.error)
        (chunksLength (sent.map Sent.chunk) + last.taken)

namespace Delivered

variable {handle : Handle} {chunks rest : List (Nat × ByteArray)} {calls calls' : List Call}
  {result : Except ShortWrite Unit} {error : ShortWrite} {credit credit' : Nat}

theorem nil (handle : Handle) : Delivered handle [] [] (.ok ()) 0 :=
  .whole [] rfl (fun _ h => absurd h List.not_mem_nil)

/-- After strings that went out whole, the delivery goes on with the next ones. -/
theorem append (h : Delivered handle chunks calls (.ok ()) credit)
    (h' : Delivered handle rest calls' result credit') :
    Delivered handle (chunks ++ rest) (calls ++ calls') result (credit + credit') := by
  cases h with
  | whole sent hsent hwhole =>
    subst hsent
    cases h' with
    | whole sent' hsent' hwhole' =>
      subst hsent'
      rw [← chunksLength_append, ← List.map_append, ← List.map_append]
      exact .whole (sent ++ sent') rfl
        fun s hs => (List.mem_append.1 hs).elim (hwhole s) (hwhole' s)
    | short sent' last rest' hsent' hwhole' hshort =>
      subst hsent'
      rw [← List.append_assoc, ← List.append_assoc, ← Nat.add_assoc, ← chunksLength_append,
        ← List.map_append, ← List.map_append]
      exact .short (sent ++ sent') last rest' rfl
        (fun s hs => (List.mem_append.1 hs).elim (hwhole s) (hwhole' s)) hshort

/-- After a string that was cut short, nothing else is written. -/
theorem append_of_error (h : Delivered handle chunks calls (.error error) credit)
    (rest : List (Nat × ByteArray)) :
    Delivered handle (chunks ++ rest) calls (.error error) credit := by
  cases h with
  | short sent last rest' hsent hwhole hshort =>
    subst hsent
    exact .short sent last (rest' ++ rest) (by simp) hwhole hshort

end Delivered

namespace SegmentWriter

variable {σ : Type} [Transport σ]

/-- The writer after some more bytes were taken. -/
def credited (w : SegmentWriter) (credit : Nat) : SegmentWriter :=
  { w with bytesWritten := w.bytesWritten + credit }

theorem credited_credited (w : SegmentWriter) (m n : Nat) :
    (w.credited m).credited n = w.credited (m + n) := by
  simp only [credited, Nat.add_assoc]

def taken (w : SegmentWriter) (chunk : ByteArray) (t : σ) : Nat :=
  (Transport.write t w.handle chunk).value.1

theorem sendChunk_whole {w : SegmentWriter} {chunk : ByteArray} {t : σ}
    (h : chunk.size ≤ w.taken chunk t) :
    (w.sendChunk chunk t).value = (.ok (), w.credited chunk.size) ∧
      (w.sendChunk chunk t).calls = [.write w.handle chunk (w.taken chunk t)] := by
  have hmin : min (Run.write w.handle chunk t).value chunk.size = chunk.size := Nat.min_eq_right h
  simp only [sendChunk, Run.bind_apply, hmin, Nat.lt_irrefl, if_false]
  exact ⟨rfl, rfl⟩

theorem sendChunk_short {w : SegmentWriter} {chunk : ByteArray} {t : σ}
    (h : w.taken chunk t < chunk.size) :
    (w.sendChunk chunk t).value = (.error ⟨w.segmentsWritten, chunk.size, w.taken chunk t⟩,
        w.credited (w.taken chunk t)) ∧
      (w.sendChunk chunk t).calls = [.write w.handle chunk (w.taken chunk t)] := by
  have hmin : min (Run.write w.handle chunk t).value chunk.size = w.taken chunk t :=
    Nat.min_eq_left (Nat.le_of_lt h)
  simp only [sendChunk, Run.bind_apply, hmin, h, if_true]
  exact ⟨rfl, rfl⟩

theorem delivered_sendChunk (w : SegmentWriter) (chunk : ByteArray) (t : σ) :
    ∃ credit, Delivered w.handle [(w.segmentsWritten, chunk)] (w.sendChunk chunk t).calls
        (w.sendChunk chunk t).value.1 credit ∧
      (w.sendChunk chunk t).value.2 = w.credited credit := by
  let sent : Sent := ⟨w.segmentsWritten, chunk, w.taken chunk t⟩
  by_cases h : chunk.size ≤ w.taken chunk t
  · obtain ⟨hvalue, hcalls⟩ := sendChunk_whole h
    rw [hvalue, hcalls]
    exact ⟨_, .whole [sent] rfl (List.forall_mem_singleton.2 h), rfl⟩
  · obtain ⟨hvalue, hcalls⟩ := sendChunk_short (Nat.not_le.1 h)
    rw [hvalue, hcalls]
    refine ⟨_, .short [] sent [] rfl (fun _ h => absurd h List.not_mem_nil) h, ?_⟩
    rw [List.map_nil, chunksLength, Nat.zero_add]

/-- The chunks of one segment, each with the number of the segment. -/
abbrev numbered (segment : Nat) (chunks : List ByteArray) : List (Nat × ByteArray) :=
  chunks.map (segment, ·)

theorem segment_of_delivered {handle : Handle} {segment : Nat} {chunks : List ByteArray}
    {calls : List Call} {e : ShortWrite} {credit : Nat}
    (h : Delivered handle (numbered segment chunks) calls (.error e) credit) :
    e.segment = segment := by
  cases h with
  | short sent last rest hsent hwhole hshort =>
    have hlast : last.chunk ∈ numbered segment chunks :=
      hsent ▸ List.mem_append_right _ List.mem_cons_self
    obtain ⟨bytes, -, hbytes⟩ := List.mem_map.1 hlast
    exact (congrArg Prod.fst hbytes).symm

theorem delivered_sendChunks (w : SegmentWriter) (chunks : List ByteArray) (t : σ) :
    ∃ credit, Delivered w.handle (numbered w.segmentsWritten chunks) (w.sendChunks chunks t).calls
        (w.sendChunks chunks t).value.1 credit ∧
      (w.sendChunks chunks t).value.2 = w.credited credit := by
  induction chunks generalizing w t with
  | nil => exact ⟨0, .nil w.handle, rfl⟩
  | cons chunk chunks ih =>
    obtain ⟨credit, hchunk, hw⟩ := delivered_sendChunk w chunk t
    rw [sendChunks, Run.bind_apply]
    generalize w.sendChunk chunk t = o at hchunk hw
    obtain ⟨⟨result, w'⟩, t', calls, events⟩ := o
    cases hw
    cases result with
    | error e =>
      refine ⟨credit, ?_, rfl⟩
      simpa using hchunk.append_of_error (numbered w.segmentsWritten chunks)
    | ok u =>
      obtain ⟨credit', hrest, hw'⟩ := ih (w.credited credit) t'
      exact ⟨credit + credit', hchunk.append hrest, by rw [← credited_credited]; exact hw'⟩

/-- The writer after a segment: the number of segments goes up if it went out whole. -/
def advanced (w : SegmentWriter) (result : Except ShortWrite Unit) (credit : Nat) : SegmentWriter :=
  match result with
  | .ok () => { w.credited credit with segmentsWritten := w.segmentsWritten + 1 }
  | .error _ => w.credited credit

theorem delivered_sendSegment (w : SegmentWriter) (segment : Segment) (t : σ) :
    ∃ credit, Delivered w.handle (numbered w.segmentsWritten segment.chunks)
        (w.sendSegment segment t).calls (w.sendSegment segment t).value.1 credit ∧
      (w.sendSegment segment t).value.2 =
        w.advanced (w.sendSegment segment t).value.1 credit := by
  obtain ⟨credit, hchunks, hw⟩ := delivered_sendChunks w segment.chunks t
  rw [sendSegment, sendContent_eq, Run.bind_apply]
  generalize w.sendChunks segment.chunks t = o at hchunks hw
  obtain ⟨⟨result, w'⟩, t', calls, events⟩ := o
  cases hw
  cases result with
  | error e => exact ⟨credit, by simpa using hchunks, rfl⟩
  | ok u => exact ⟨credit, by simpa using hchunks, rfl⟩

theorem sendSegments_singleton (w : SegmentWriter) (segment : Segment) :
    (w.sendSegments [segment] : Run σ _) = w.sendSegment segment :=
  bind_onward_pure (w.sendSegment segment)

end SegmentWriter

end RawProfile

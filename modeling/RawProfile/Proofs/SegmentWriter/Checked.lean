import Mathlib.Algebra.BigOperators.Group.List.Basic
import Mathlib.Algebra.Ring.Nat
import RawProfile.Proofs.SegmentWriter.Delivery
import RawProfile.Word

/-!
# Counts that are words

The counts of a writer and of a registry are kept in words, so each of their sums could fail.
`CheckedRun` is a computation that uses a transport and stops at the first result that does not fit;
`sendSegments?` is `sendSegments` with every sum checked. `sendSegments?_eq`: while the bytes and
the segments still to be sent leave both counts within a word, no sum is refused, whatever the
transport answers, because it is never credited with more than it was given
(`ensures_sendSegment`).
-/

namespace RawProfile

/-- The exact sum of two numbers, refused when it does not fit into a word. -/
def Word.sum? (a b : Nat) : Except WordFault Nat :=
  if a + b < UInt64.size then .ok (a + b) else .error .addition

theorem Word.sum?_of_lt {a b : Nat} (h : a + b < UInt64.size) : Word.sum? a b = .ok (a + b) :=
  if_pos h

/-- A computation that uses a transport and stops at the first result that does not fit. -/
abbrev CheckedRun (σ : Type) : Type → Type := ExceptT WordFault (Run σ)

namespace Run

variable {σ α β : Type}

/-- The value has a property, whatever the state of the transport. -/
def Ensures (x : Run σ α) (P : α → Prop) : Prop := ∀ t, P (x t).value

theorem Ensures.bind {x : Run σ α} {P : α → Prop} {f : α → Run σ β} {Q : β → Prop}
    (hx : x.Ensures P) (h : ∀ a, P a → (f a).Ensures Q) : (x >>= f).Ensures Q :=
  fun t => h _ (hx t) _

/-- A step whose results all fit, before steps whose results all fit after it. -/
theorem lift_bind_eq {x : Run σ α} {P : α → Prop} {f : α → CheckedRun σ β} {g : α → Run σ β}
    (hx : x.Ensures P) (h : ∀ a, P a → f a = ExceptT.lift (g a)) :
    (ExceptT.lift x >>= f) = ExceptT.lift (x >>= g) := by
  apply ExceptT.ext
  rw [ExceptT.run_bind_lift, ExceptT.run_lift, map_bind]
  funext t
  have hstep : (f (x t).value).run = Except.ok <$> g (x t).value := by
    rw [h _ (hx t), ExceptT.run_lift]
  rw [bind_apply, bind_apply, hstep]

theorem lift_bind_eq_of_forall {x : Run σ α} {f : α → CheckedRun σ β} {g : α → Run σ β}
    (h : ∀ a, f a = ExceptT.lift (g a)) : (ExceptT.lift x >>= f) = ExceptT.lift (x >>= g) :=
  lift_bind_eq (P := fun _ => True) (fun _ => trivial) fun a _ => h a

theorem ok_bind (a : α) (f : α → CheckedRun σ β) :
    (liftM (Except.ok a : Except WordFault α) >>= f : CheckedRun σ β) = f a :=
  pure_bind a f

theorem sum?_bind_eq {a b : Nat} (h : a + b < UInt64.size) (f : Nat → CheckedRun σ β) :
    (liftM (Word.sum? a b) >>= f : CheckedRun σ β) = f (a + b) := by
  rw [Word.sum?_of_lt h, ok_bind]

end Run

theorem Delivered.credit_le {handle : Handle} {chunks : List (Nat × ByteArray)} {calls : List Call}
    {result : Except ShortWrite Unit} {credit : Nat}
    (h : Delivered handle chunks calls result credit) : credit ≤ chunksLength chunks := by
  cases h with
  | whole sent hsent hwhole => exact Nat.le_refl _
  | short sent last rest hsent hwhole hshort =>
    rw [← hsent, chunksLength_append]
    change _ ≤ _ + (last.bytes.size + chunksLength rest)
    unfold Sent.Whole at hshort
    omega

namespace SegmentWriter

def bytesIn (chunks : List ByteArray) : Nat := (chunks.map ByteArray.size).sum

theorem chunksLength_numbered (number : Nat) (chunks : List ByteArray) :
    chunksLength (numbered number chunks) = bytesIn chunks := by
  induction chunks with
  | nil => rfl
  | cons chunk chunks ih =>
    change chunk.size + chunksLength (numbered number chunks) = bytesIn (chunk :: chunks)
    rw [ih, bytesIn, bytesIn, List.map_cons, List.sum_cons]

theorem bytesIn_chunks (segment : Segment) : bytesIn segment.chunks = segment.length := by
  cases segment with
  | bytes b =>
    rw [Segment.chunks]
    split
    · next h => exact h.symm
    · exact Nat.add_zero _
  | zeros n =>
    have hrest : bytesIn (if n % 8 = 0 then [] else [zeroBytes (n % 8)]) = n % 8 := by
      split
      · next h => exact h.symm
      · rw [bytesIn, List.map_singleton, List.sum_singleton, size_zeroBytes]
    rw [bytesIn] at hrest
    rw [Segment.chunks, bytesIn, List.map_append, List.sum_append, hrest, List.map_replicate,
      List.sum_replicate_nat, size_zeroBytes]
    exact Nat.div_add_mod' n 8

variable {σ : Type} [Transport σ]

/-! ## The writer, with every sum checked -/

def sendChunk? (w : SegmentWriter) (chunk : ByteArray) :
    CheckedRun σ (Except ShortWrite Unit × SegmentWriter) := do
  let transferred := min (← (Run.write w.handle chunk : Run σ Nat)) chunk.size
  let w := { w with bytesWritten := ← Word.sum? w.bytesWritten transferred }
  if transferred < chunk.size then
    let name ← (Run.transportName : Run σ String)
    (Run.report (.writeCutShort name w.segmentsWritten chunk.size transferred) : Run σ Unit)
    return (.error ⟨w.segmentsWritten, chunk.size, transferred⟩, w)
  else return (.ok (), w)

def sendZeros? (w : SegmentWriter) (remaining : Nat) :
    CheckedRun σ (Except ShortWrite Unit × SegmentWriter) :=
  if remaining = 0 then return (.ok (), w)
  else do
    let chunk := min remaining Segment.zeroChunk
    match ← w.sendChunk? (zeroBytes chunk) with
    | (.error e, w) => return (.error e, w)
    | (.ok (), w) => w.sendZeros? (remaining - chunk)
termination_by remaining
decreasing_by
  simp only [Segment.zeroChunk]
  omega

def sendContent? (w : SegmentWriter) :
    Segment → CheckedRun σ (Except ShortWrite Unit × SegmentWriter)
  | .bytes b => if b.size = 0 then return (.ok (), w) else w.sendChunk? b
  | .zeros n => w.sendZeros? n

def sendSegment? (w : SegmentWriter) (segment : Segment) :
    CheckedRun σ (Except ShortWrite Unit × SegmentWriter) := do
  match ← w.sendContent? segment with
  | (.error e, w) => return (.error e, w)
  | (.ok (), w) =>
    return (.ok (), { w with segmentsWritten := ← Word.sum? w.segmentsWritten 1 })

def sendSegments? (w : SegmentWriter) :
    List Segment → CheckedRun σ (Except ShortWrite Unit × SegmentWriter)
  | [] => return (.ok (), w)
  | segment :: segments => do
    match ← w.sendSegment? segment with
    | (.error e, w) => return (.error e, w)
    | (.ok (), w) => w.sendSegments? segments

/-! ## What a step adds to the counts -/

/-- The counts went up by so many bytes and segments at most. -/
def GrewBy (w : SegmentWriter) (bytes segments : Nat) (w' : SegmentWriter) : Prop :=
  w'.bytesWritten ≤ w.bytesWritten + bytes ∧ w'.segmentsWritten ≤ w.segmentsWritten + segments

section GrewBy

variable {w w' w'' : SegmentWriter} {bytes bytes' segments segments' : Nat}

theorem GrewBy.mono (h : w.GrewBy bytes segments w') (hbytes : bytes ≤ bytes')
    (hsegments : segments ≤ segments') : w.GrewBy bytes' segments' w' :=
  ⟨Nat.le_trans h.1 (Nat.add_le_add_left hbytes _),
    Nat.le_trans h.2 (Nat.add_le_add_left hsegments _)⟩

theorem GrewBy.trans (h : w.GrewBy bytes segments w') (h' : w'.GrewBy bytes' segments' w'') :
    w.GrewBy (bytes + bytes') (segments + segments') w'' := by
  unfold GrewBy at h h' ⊢
  omega

end GrewBy

theorem ensures_sendChunk (w : SegmentWriter) (chunk : ByteArray) :
    (w.sendChunk chunk : Run σ _).Ensures fun r => w.GrewBy chunk.size 0 r.2 := by
  intro t
  obtain ⟨credit, hsent, hw⟩ := delivered_sendChunk w chunk t
  rw [hw]
  exact ⟨Nat.add_le_add_left hsent.credit_le _, Nat.le_refl _⟩

theorem ensures_sendContent (w : SegmentWriter) (segment : Segment) :
    (w.sendContent segment : Run σ _).Ensures fun r => w.GrewBy segment.length 0 r.2 := by
  intro t
  obtain ⟨credit, hsent, hw⟩ := delivered_sendChunks w segment.chunks t
  rw [sendContent_eq, hw, ← bytesIn_chunks, ← chunksLength_numbered w.segmentsWritten]
  exact ⟨Nat.add_le_add_left hsent.credit_le _, Nat.le_refl _⟩

theorem ensures_sendSegment (w : SegmentWriter) (segment : Segment) :
    (w.sendSegment segment : Run σ _).Ensures fun r => w.GrewBy segment.length 1 r.2 := by
  intro t
  obtain ⟨credit, hsent, hw⟩ := delivered_sendSegment w segment t
  have hle := hsent.credit_le
  rw [chunksLength_numbered, bytesIn_chunks] at hle
  rw [hw]
  cases (w.sendSegment segment t).value.1 with
  | error e => exact ⟨Nat.add_le_add_left hle _, Nat.le_succ _⟩
  | ok u => exact ⟨Nat.add_le_add_left hle _, Nat.le_refl _⟩

/-! ## No sum is refused -/

theorem sendChunk?_eq {w : SegmentWriter} {chunk : ByteArray}
    (h : w.bytesWritten + chunk.size < UInt64.size) :
    (w.sendChunk? chunk : CheckedRun σ _) = ExceptT.lift (w.sendChunk chunk) := by
  unfold sendChunk? sendChunk
  refine Run.lift_bind_eq_of_forall fun answer => ?_
  dsimp only
  rw [Run.sum?_bind_eq (by omega)]
  split
  · rfl
  · rfl

theorem sendZeros?_eq {w : SegmentWriter} {n : Nat} (h : w.bytesWritten + n < UInt64.size) :
    (w.sendZeros? n : CheckedRun σ _) = ExceptT.lift (w.sendZeros n) := by
  induction n using Nat.strongRecOn generalizing w with
  | ind n ih =>
    rw [sendZeros?, sendZeros]
    split
    · rfl
    · dsimp only [Segment.zeroChunk]
      rw [sendChunk?_eq (by rw [size_zeroBytes]; omega)]
      refine Run.lift_bind_eq (ensures_sendChunk w _) ?_
      rintro ⟨result, w'⟩ (⟨hgrown, -⟩ : w.GrewBy _ 0 w')
      rw [size_zeroBytes] at hgrown
      cases result with
      | error e => rfl
      | ok u => exact ih (n - min n 8) (by omega) (by omega)

theorem sendContent?_eq {w : SegmentWriter} {segment : Segment}
    (h : w.bytesWritten + segment.length < UInt64.size) :
    (w.sendContent? segment : CheckedRun σ _) = ExceptT.lift (w.sendContent segment) := by
  cases segment with
  | bytes b =>
    rw [sendContent?, sendContent]
    split
    · rfl
    · exact sendChunk?_eq h
  | zeros n => exact sendZeros?_eq h

theorem sendSegment?_eq {w : SegmentWriter} {segment : Segment}
    (hbytes : w.bytesWritten + segment.length < UInt64.size)
    (hsegments : w.segmentsWritten + 1 < UInt64.size) :
    (w.sendSegment? segment : CheckedRun σ _) = ExceptT.lift (w.sendSegment segment) := by
  rw [sendSegment?, sendSegment, sendContent?_eq hbytes]
  refine Run.lift_bind_eq (ensures_sendContent w segment) ?_
  rintro ⟨result, w'⟩ (⟨-, hnumber⟩ : w.GrewBy segment.length 0 w')
  cases result with
  | error e => rfl
  | ok u =>
    dsimp only at hnumber ⊢
    rw [Run.sum?_bind_eq (by omega)]
    rfl

/-- While both counts have room for what is still to be sent, no sum is refused. -/
theorem sendSegments?_eq {w : SegmentWriter} {segments : List Segment}
    (hbytes : w.bytesWritten + (segments.map Segment.length).sum < UInt64.size)
    (hsegments : w.segmentsWritten + segments.length < UInt64.size) :
    (w.sendSegments? segments : CheckedRun σ _) = ExceptT.lift (w.sendSegments segments) := by
  induction segments generalizing w with
  | nil => rfl
  | cons segment segments ih =>
    rw [List.map_cons, List.sum_cons] at hbytes
    rw [List.length_cons] at hsegments
    rw [sendSegments?, sendSegments, sendSegment?_eq (by omega) (by omega)]
    refine Run.lift_bind_eq (ensures_sendSegment w segment) ?_
    rintro ⟨result, w'⟩ (⟨hgrown, hnumber⟩ : w.GrewBy segment.length 1 w')
    cases result with
    | error e => rfl
    | ok u => exact ih (by omega) (by omega)

end SegmentWriter

end RawProfile

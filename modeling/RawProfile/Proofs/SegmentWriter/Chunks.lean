import RawProfile.SegmentWriter

/-!
# Segments in chunks

`Segment.chunks` are the strings that a segment comes to. The writer never has them as a list, since
a run of zeros can be longer than any list, but what it sends for a segment are its chunks in order,
up to the first that is cut short: `sendContent_eq`.
-/

namespace RawProfile

namespace Segment

/-- Bytes stay together, zeros go by eights, and no chunk is empty. -/
def chunks : Segment → List ByteArray
  | .bytes b => if b.size = 0 then [] else [b]
  | .zeros n =>
    List.replicate (n / 8) (zeroBytes 8) ++ if n % 8 = 0 then [] else [zeroBytes (n % 8)]

theorem chunks_zeros_of_lt {n : Nat} (h : n < 8) :
    (zeros n).chunks = (bytes (zeroBytes n)).chunks := by
  rw [chunks, chunks, Nat.div_eq_of_lt h, Nat.mod_eq_of_lt h, size_zeroBytes]
  rfl

/-- The first chunk of a run of zeros, and those of the run that is left. -/
theorem chunks_zeros {n : Nat} (h : n ≠ 0) :
    (zeros n).chunks = zeroBytes (min n 8) :: (zeros (n - min n 8)).chunks := by
  by_cases hlt : n < 8
  · rw [Nat.min_eq_left (Nat.le_of_lt hlt), Nat.sub_self, chunks_zeros_of_lt hlt, chunks,
      size_zeroBytes, if_neg h]
    rfl
  · obtain ⟨m, rfl⟩ := Nat.exists_eq_add_of_le' (Nat.not_lt.1 hlt)
    rw [Nat.min_eq_right (Nat.le_add_left 8 m), Nat.add_sub_cancel, chunks, chunks,
      Nat.add_div_right m (by decide), Nat.add_mod_right, List.replicate_succ, List.cons_append]

end Segment

namespace SegmentWriter

variable {σ : Type}

/-- Goes on with the writer that a call leaves, unless the call failed. -/
def onward (next : SegmentWriter → Run σ (Except ShortWrite Unit × SegmentWriter)) :
    Except ShortWrite Unit × SegmentWriter → Run σ (Except ShortWrite Unit × SegmentWriter)
  | (.error e, w) => return (.error e, w)
  | (.ok (), w) => next w

/-- To go on with nothing is to stop. -/
theorem bind_onward_pure (x : Run σ (Except ShortWrite Unit × SegmentWriter)) :
    (x >>= onward fun w => pure (.ok (), w)) = x := by
  have honward : (onward fun w => pure (.ok (), w)) =
      (pure : Except ShortWrite Unit × SegmentWriter → Run σ _) := by
    funext ⟨result, w⟩
    cases result <;> rfl
  rw [honward, bind_pure]

variable [Transport σ]

/-- Sends chunks in order, up to the first that is cut short. -/
def sendChunks (w : SegmentWriter) :
    List ByteArray → Run σ (Except ShortWrite Unit × SegmentWriter)
  | [] => return (.ok (), w)
  | chunk :: chunks => do
    match ← w.sendChunk chunk with
    | (.error e, w) => return (.error e, w)
    | (.ok (), w) => w.sendChunks chunks

theorem sendChunks_singleton (w : SegmentWriter) (chunk : ByteArray) :
    (w.sendChunks [chunk] : Run σ _) = w.sendChunk chunk :=
  bind_onward_pure (w.sendChunk chunk)

theorem sendZeros_eq (w : SegmentWriter) (n : Nat) :
    (w.sendZeros n : Run σ _) = w.sendChunks (Segment.zeros n).chunks := by
  induction n using Nat.strongRecOn generalizing w with
  | ind n ih =>
    rw [sendZeros]
    split
    · next h =>
      subst h
      rfl
    · next h =>
      rw [Segment.chunks_zeros h, sendChunks]
      dsimp only [Segment.zeroChunk]
      congr 1
      funext ⟨result, w⟩
      cases result with
      | error e => rfl
      | ok u => exact ih (n - min n 8) (by omega) w

theorem sendContent_eq (w : SegmentWriter) (segment : Segment) :
    (w.sendContent segment : Run σ _) = w.sendChunks segment.chunks := by
  cases segment with
  | bytes b =>
    rw [sendContent, Segment.chunks]
    split
    · rfl
    · exact (w.sendChunks_singleton b).symm
  | zeros n => exact w.sendZeros_eq n

end SegmentWriter

end RawProfile

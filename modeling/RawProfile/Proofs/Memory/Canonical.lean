import RawProfile.Proofs.Memory.History
import RawProfile.Proofs.Memory.InPlace

/-!
# Memory has one form

Whatever was written, the regions are the connected pieces of what the writes that were not refused
take up of the line of addresses (`lines_replay`). Together with the bytes this decides memory
(`eq_of_lines`), so the order of writes shows only where they cover the same address.
`regions_replay` collects this, and that a write never fails half-way.
-/

namespace RawProfile.SparseMemory

/-- What the writes that are not refused take up of the line. An empty one takes up a point. -/
def taken (ws : List Write) : Set ℝ := {x | ∃ w ∈ ws, w.Fits ∧ x ∈ w.region.line}

variable {m m' : SparseMemory} {v w : Write}

theorem regions_after (h : w.Fits) (m : SparseMemory) :
    (m.after w).regions = Region.insert w.region m.regions := by
  obtain ⟨m', hperform⟩ := Write.perform_eq_ok h m
  rw [after_of_fits hperform]
  unfold Write.Fits at h
  rw [Write.perform_eq, write, dif_pos h] at hperform
  cases hperform
  rfl

theorem lines_after (m : SparseMemory) (w : Write) :
    Region.lines (m.after w).regions = taken [w] ∪ Region.lines m.regions := by
  by_cases h : w.Fits
  · have htaken : taken [w] = w.region.line := by
      ext x
      simp [taken, h]
    rw [regions_after h, Region.lines_insert, htaken]
  · have htaken : taken [w] = ∅ := by
      ext x
      simp [taken, h]
    rw [after_of_not_fits h, htaken, Set.empty_union]

theorem taken_concat (ws : List Write) (w : Write) : taken (ws ++ [w]) = taken [w] ∪ taken ws := by
  ext x
  simp only [taken, List.mem_append, List.mem_singleton, or_and_right, exists_or, exists_eq_left,
    Set.mem_ofPred_eq, Set.mem_union]
  exact or_comm

theorem lines_replay (ws : List Write) : Region.lines (empty.replay ws).regions = taken ws := by
  induction ws using List.reverseRecOn with
  | nil =>
    ext x
    simp [replay, empty, taken]
  | append_singleton ws w ih =>
    rw [replay, List.foldl_append, List.foldl_cons, List.foldl_nil, ← replay, lines_after, ih,
      taken_concat]

/-- Memory is decided by what its regions take up and by its bytes. -/
theorem eq_of_lines (hlines : Region.lines m.regions = Region.lines m'.regions)
    (hbytes : ∀ a b, m.at? a = some b ↔ m'.at? a = some b) : m = m' := by
  have hregions : m.regions = m'.regions :=
    m.spaced.eq_of_lines m'.spaced hlines fun a => Option.ext fun b => hbytes a b
  obtain ⟨regions, _⟩ := m
  obtain ⟨regions', _⟩ := m'
  cases hregions
  rfl

theorem Write.covers_of_puts {a : Nat} {b : UInt8} (h : w.Puts a b) : w.Covers a :=
  covers_iff_exists_puts.2 ⟨b, h⟩

/-- Two writes of which none covers an address of the other commute. -/
theorem after_comm (h : ∀ a, ¬ (v.Covers a ∧ w.Covers a)) (m : SparseMemory) :
    (m.after v).after w = (m.after w).after v := by
  refine eq_of_lines ?_ fun a b => ?_
  · simp only [lines_after, Set.union_left_comm]
  · have hvw := h a
    have hv := Write.covers_of_puts (w := v) (a := a) (b := b)
    have hw := Write.covers_of_puts (w := w) (a := a) (b := b)
    simp only [at?_after_eq_some_iff]
    tauto

theorem after_after (m : SparseMemory) (w : Write) : (m.after w).after w = m.after w := by
  refine eq_of_lines ?_ fun a b => ?_
  · rw [lines_after, lines_after, ← Set.union_assoc, Set.union_self]
  · simp only [at?_after_eq_some_iff]
    tauto

/-- After any calls, the regions lie apart and below the top of the address space, and they are the
connected pieces of the intervals that were written. From there on, the only step of a write that
can fail is the first sum, writes to different addresses commute, and a write that is repeated
changes nothing. -/
theorem regions_replay (ws : List Write) :
    let m := empty.replay ws
    (∀ r ∈ m.regions, r.base.toNat + r.bytes.size ≤ UInt64.size - 1) ∧
    m.regions.Pairwise (fun r s => r.base.toNat + r.bytes.size < s.base.toNat) ∧
    {c | ∃ r ∈ m.regions, r.line = c} = pieces (taken ws) ∧
    m.regionCount = (pieces (taken ws)).ncard ∧
    ∀ w : Write,
      (w.Fits → InPlace.write? m.regions w.address w.bytes = .ok (m.after w).regions) ∧
      (¬ w.Fits → InPlace.write? m.regions w.address w.bytes = .error .sum ∧ m.after w = m) ∧
      (∀ v : Write, (∀ a, ¬ (v.Covers a ∧ w.Covers a)) →
        (m.after v).after w = (m.after w).after v) ∧
      (m.after w).after w = m.after w := by
  intro m
  have hlines := lines_replay ws
  refine ⟨fun r hr => Nat.le_pred_of_lt (m.spaced.bounded r hr), m.spaced.gaps, ?_, ?_, fun w => ?_⟩
  · rw [← hlines, Region.pieces_lines m.spaced.gaps]
  · rw [← hlines, m.spaced.ncard_pieces, regionCount]
  · refine ⟨fun hfits => ?_, fun hfits => ⟨?_, after_of_not_fits hfits m⟩,
      fun v hvw => after_comm hvw m, after_after m w⟩
    · rw [regions_after hfits]
      exact InPlace.write?_of_lt w.region m.spaced hfits
    · exact InPlace.write?_of_not_lt hfits

end RawProfile.SparseMemory

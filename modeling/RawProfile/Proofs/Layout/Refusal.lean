import RawProfile.Proofs.Layout.Exact

/-!
# Refused layouts

When there is no layout, and for which reason. `Layout.Exceeds` says in plain numbers which size is
the first that does not fit into a word; `totalLength_eq_error_iff` that the checked computation
reports that one, and `compute_eq_error_iff` that spans are refused for nothing but the size of a
record or such an excess. `wholeSize` is the size of a span in whole elements.
-/

namespace RawProfile

section Checked

theorem mul?_eq_error_iff {a b : UInt64} {f : WordFault} :
    Word.mul? a b = .error f ↔ UInt64.size ≤ a.toNat * b.toNat ∧ .multiplication = f := by
  unfold Word.mul?
  split
  · next h =>
    simp only [reduceCtorEq, false_iff]
    omega
  · next h =>
    simp only [Except.error.injEq, Nat.not_lt.1 h, true_and]

theorem exists_foldlM_add?_eq_error_iff {ws : List UInt64} {a : UInt64} :
    (∃ f, ws.foldlM Word.add? a = .error f) ↔
      UInt64.size ≤ a.toNat + ws.foldr (fun w sum => w.toNat + sum) 0 := by
  constructor
  · rintro ⟨f, hf⟩
    refine Nat.not_lt.1 fun hlt => ?_
    have hsum : ws.foldlM Word.add? a =
        .ok (.ofNat (a.toNat + ws.foldr (fun w sum => w.toNat + sum) 0)) :=
      foldlM_add?_eq_ok_iff.2 (UInt64.toNat_ofNat_of_lt' hlt)
    rw [hsum] at hf
    cases hf
  · intro hge
    cases hsum : ws.foldlM Word.add? a with
    | error f => exact ⟨f, rfl⟩
    | ok n =>
      have hexact := foldlM_add?_eq_ok_iff.1 hsum
      have hlt : n.toNat < UInt64.size := n.toNat_lt
      omega

end Checked

def wholeSize (bytes unit : Nat) : Nat := (bytes + unit - 1) / unit * unit

namespace Layout

/-- The size of records that a file can have: whole words, and at least one. -/
def ValidSize (recordSize : UInt64) : Prop := recordSize ≠ 0 ∧ recordSize % 8 = 0

instance (recordSize : UInt64) : Decidable (ValidSize recordSize) :=
  inferInstanceAs (Decidable (_ ∧ _))

theorem validSize_iff {recordSize : UInt64} :
    ValidSize recordSize ↔ ¬ (recordSize = 0 ∨ recordSize % 8 ≠ 0) := by
  simp [ValidSize]

/-- The first size that does not fit into a word, in the order data, counters, file. -/
def Exceeds (l : Layout) : Measure → Prop
  | .data => UInt64.size ≤ l.numRecords.toNat * l.recordSize.toNat
  | .counters => l.numRecords.toNat * l.recordSize.toNat < UInt64.size ∧
      UInt64.size ≤ l.numCounters.toNat * 8
  | .file => l.numRecords.toNat * l.recordSize.toNat < UInt64.size ∧
      l.numCounters.toNat * 8 < UInt64.size ∧ UInt64.size ≤ l.length

theorem foldr_sections_eq {l : Layout} {data counters : UInt64} (hdata : l.dataBytes = .ok data)
    (hcounters : l.counterBytes = .ok counters) :
    (UInt64.ofNat Header.byteCount).toNat + [data, counters, l.numBitmapBytes,
      l.paddingAfterBitmap, l.namesSize, l.paddingAfterNames].foldr
        (fun w sum => w.toNat + sum) 0 = l.length := by
  have hheader : (UInt64.ofNat Header.byteCount).toNat = Header.byteCount := rfl
  rw [hheader, length, ← dataBytes_eq_ok_iff.1 hdata, ← counterBytes_eq_ok_iff.1 hcounters]
  simp only [List.foldr_cons, List.foldr_nil]
  omega

theorem totalLength_eq_error_iff {l : Layout} {e : LayoutError} :
    l.totalLength = .error e ↔ ∃ m, e = .overflow m ∧ l.Exceeds m := by
  unfold totalLength
  cases hdata : l.dataBytes with
  | error f =>
    obtain ⟨hexceeds, -⟩ := mul?_eq_error_iff.1 hdata
    constructor
    · intro h
      cases h
      exact ⟨.data, rfl, hexceeds⟩
    · rintro ⟨m, rfl, hm⟩
      cases m with
      | data => rfl
      | counters => exact absurd hm.1 (Nat.not_lt.2 hexceeds)
      | file => exact absurd hm.1 (Nat.not_lt.2 hexceeds)
  | ok data =>
    have hdataFits : l.numRecords.toNat * l.recordSize.toNat < UInt64.size := by
      rw [← dataBytes_eq_ok_iff.1 hdata]
      exact data.toNat_lt
    cases hcounters : l.counterBytes with
    | error f =>
      obtain ⟨hexceeds, -⟩ := mul?_eq_error_iff.1 hcounters
      constructor
      · intro h
        cases h
        exact ⟨.counters, rfl, hdataFits, hexceeds⟩
      · rintro ⟨m, rfl, hm⟩
        cases m with
        | data => exact absurd hdataFits (Nat.not_lt.2 hm)
        | counters => rfl
        | file => exact absurd hm.2.1 (Nat.not_lt.2 hexceeds)
    | ok counters =>
      have hcountersFit : l.numCounters.toNat * 8 < UInt64.size := by
        rw [← counterBytes_eq_ok_iff.1 hcounters]
        exact counters.toNat_lt
      change (List.foldlM Word.add? _ _).mapError _ = _ ↔ _
      rw [mapError_eq_error_iff]
      constructor
      · rintro ⟨f, hf, rfl⟩
        have hexceeds := exists_foldlM_add?_eq_error_iff.1 ⟨f, hf⟩
        rw [foldr_sections_eq hdata hcounters] at hexceeds
        exact ⟨.file, rfl, hdataFits, hcountersFit, hexceeds⟩
      · rintro ⟨m, rfl, hm⟩
        cases m with
        | data => exact absurd hdataFits (Nat.not_lt.2 hm)
        | counters => exact absurd hcountersFit (Nat.not_lt.2 hm.2)
        | file =>
          have hexceeds := hm.2.2
          rw [← foldr_sections_eq hdata hcounters] at hexceeds
          obtain ⟨f, hf⟩ := exists_foldlM_add?_eq_error_iff.2 hexceeds
          exact ⟨f, hf, rfl⟩

variable {recordSize data counters names : UInt64}

theorem compute_of_not_valid (h : ¬ ValidSize recordSize) :
    compute recordSize data counters names = .error (.invalidRecordSize recordSize) := by
  rw [compute, if_pos (Decidable.not_not.1 (mt validSize_iff.2 h))]

/-- For records of a size that a file can have, only the length of the file is checked. -/
theorem compute_of_valid (h : ValidSize recordSize) :
    compute recordSize data counters names = (ofSpans recordSize data counters names).totalLength.map
      fun _ => ofSpans recordSize data counters names := by
  rw [compute, if_neg (validSize_iff.1 h)]
  dsimp only
  cases (ofSpans recordSize data counters names).totalLength with
  | error e => rfl
  | ok n => rfl

/-- Spans are refused for the size of a record, or for the first size that does not fit. -/
theorem compute_eq_error_iff {e : LayoutError} :
    compute recordSize data counters names = .error e ↔
      (¬ ValidSize recordSize ∧ e = .invalidRecordSize recordSize) ∨
      (ValidSize recordSize ∧ ∃ m, e = .overflow m ∧
        (ofSpans recordSize data counters names).Exceeds m) := by
  by_cases h : ValidSize recordSize
  · simp only [h, not_true_eq_false, false_and, false_or, true_and]
    rw [compute_of_valid h, ← totalLength_eq_error_iff]
    cases (ofSpans recordSize data counters names).totalLength with
    | error e' => simp [Except.map]
    | ok n => simp [Except.map]
  · simp only [h, not_false_eq_true, true_and, false_and, or_false]
    rw [compute_of_not_valid h, Except.error.injEq]
    exact eq_comm

theorem toNat_numRecords_mul (recordSize data counters names : UInt64) :
    (ofSpans recordSize data counters names).numRecords.toNat * recordSize.toNat =
      wholeSize data.toNat recordSize.toNat := by
  rw [ofSpans, Word.toNat_ceilDiv, wholeSize]

theorem toNat_numCounters_mul (recordSize data counters names : UInt64) :
    (ofSpans recordSize data counters names).numCounters.toNat * 8 =
      wholeSize counters.toNat 8 := by
  rw [ofSpans, Word.toNat_ceilDiv]
  rfl

theorem length_ofSpans (recordSize data counters names : UInt64) :
    (ofSpans recordSize data counters names).length = Header.byteCount +
      wholeSize data.toNat recordSize.toNat + wholeSize counters.toNat 8 +
      wholeSize names.toNat 8 := by
  have hnames : names.toNat + (wordPadding names).toNat = wholeSize names.toNat 8 := by
    rw [toNat_wordPadding, wholeSize]
    omega
  have hbitmap : (0 : UInt64).toNat = 0 := rfl
  rw [← hnames, ← toNat_numRecords_mul recordSize data counters names,
    ← toNat_numCounters_mul recordSize data counters names]
  simp only [length, ofSpans, hbitmap, Nat.add_zero]
  omega

end Layout

end RawProfile

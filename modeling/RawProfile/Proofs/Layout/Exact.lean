import RawProfile.Layout

/-!
# Exact sizes

The sizes of a layout as plain numbers. `Layout.length` is the length of the file without any word
in which it could overflow; `totalLength_eq_ok_iff` says that the checked computation gives that
number whenever it fits, and `fits_of_compute` what is known of an accepted layout. Its sections are
long enough for their spans (`Fits.data_le`, `Fits.counters_le`), and its file ends at a multiple of
eight (`Fits.dvd_length`).
-/

namespace RawProfile

section Checked

variable {ε ε' α β : Type}

theorem bind_eq_ok_iff {x : Except ε α} {f : α → Except ε β} {b : β} :
    (x >>= f) = .ok b ↔ ∃ a, x = .ok a ∧ f a = .ok b := by
  cases x <;> simp [bind, Except.bind]

theorem mapError_eq_ok_iff {x : Except ε α} {f : ε → ε'} {a : α} :
    x.mapError f = .ok a ↔ x = .ok a := by
  cases x with
  | error e =>
    constructor <;> intro h <;> cases h
  | ok b =>
    constructor
    · intro h
      cases h
      rfl
    · intro h
      cases h
      rfl

theorem bind_eq_error_iff {x : Except ε α} {f : α → Except ε β} {e : ε} :
    (x >>= f) = .error e ↔ x = .error e ∨ ∃ a, x = .ok a ∧ f a = .error e := by
  cases x <;> simp [bind, Except.bind]

theorem mapError_eq_error_iff {x : Except ε α} {f : ε → ε'} {e : ε'} :
    x.mapError f = .error e ↔ ∃ e', x = .error e' ∧ f e' = e := by
  cases x with
  | error e' =>
    constructor
    · intro h
      cases h
      exact ⟨e', rfl, rfl⟩
    · rintro ⟨_, h, rfl⟩
      cases h
      rfl
  | ok b =>
    constructor
    · intro h
      cases h
    · rintro ⟨_, h, _⟩
      cases h

theorem ok_of_toNat_add {a b : UInt64} (h : a.toNat + b.toNat < UInt64.size) :
    Word.add? a b = .ok (a + b) := if_pos h

theorem ok_of_toNat_mul {a b : UInt64} (h : a.toNat * b.toNat < UInt64.size) :
    Word.mul? a b = .ok (a * b) := if_pos h

theorem foldlM_add?_eq_ok_iff {ws : List UInt64} {a n : UInt64} :
    ws.foldlM Word.add? a = .ok n ↔
      n.toNat = a.toNat + ws.foldr (fun w sum => w.toNat + sum) 0 := by
  induction ws generalizing a with
  | nil =>
    rw [List.foldlM_nil, List.foldr_nil, Nat.add_zero, UInt64.toNat_inj]
    exact ⟨fun h => by cases h; rfl, fun h => by rw [h]; rfl⟩
  | cons w ws ih =>
    rw [List.foldlM_cons, bind_eq_ok_iff, List.foldr_cons, ← Nat.add_assoc]
    constructor
    · rintro ⟨b, hb, hn⟩
      rw [ih.1 hn, Word.add?_eq_ok.1 hb]
    · intro hn
      have := n.toNat_lt
      have hfits : a.toNat + w.toNat < UInt64.size := by simp only [UInt64.size]; omega
      refine ⟨a + w, ok_of_toNat_add hfits, ih.2 ?_⟩
      rw [hn, ← Word.add?_eq_ok.1 (ok_of_toNat_add hfits)]

end Checked

theorem toNat_wordPadding (length : UInt64) :
    (wordPadding length).toNat = (8 - length.toNat % 8) % 8 := by
  have hmod : (length % 8).toNat = length.toNat % 8 := UInt64.toNat_mod length 8
  have hle : length % 8 ≤ 8 := UInt64.le_iff_toNat_le.2 (by
    rw [hmod]
    exact Nat.le_of_lt (Nat.mod_lt _ (by decide)))
  rw [wordPadding, UInt64.toNat_mod, UInt64.toNat_sub_of_le _ _ hle, hmod]
  rfl

namespace Layout

/-- Bytes in the whole file, as a number that cannot overflow. -/
def length (l : Layout) : Nat :=
  Header.byteCount + l.numRecords.toNat * l.recordSize.toNat + l.numCounters.toNat * 8 +
    l.numBitmapBytes.toNat + l.paddingAfterBitmap.toNat + l.namesSize.toNat +
    l.paddingAfterNames.toNat

theorem dataBytes_eq_ok_iff {l : Layout} {n : UInt64} :
    l.dataBytes = .ok n ↔ n.toNat = l.numRecords.toNat * l.recordSize.toNat :=
  Word.mul?_eq_ok

theorem counterBytes_eq_ok_iff {l : Layout} {n : UInt64} :
    l.counterBytes = .ok n ↔ n.toNat = l.numCounters.toNat * 8 :=
  Word.mul?_eq_ok

theorem totalLength_eq_ok_iff {l : Layout} {n : UInt64} :
    l.totalLength = .ok n ↔ n.toNat = l.length := by
  simp only [totalLength, bind_eq_ok_iff, mapError_eq_ok_iff, foldlM_add?_eq_ok_iff,
    dataBytes_eq_ok_iff, counterBytes_eq_ok_iff, List.foldr_cons, List.foldr_nil, Nat.add_zero,
    length]
  constructor
  · rintro ⟨data, hdata, counters, hcounters, hn⟩
    rw [hn, hdata, hcounters, UInt64.toNat_ofNat']
    simp only [Header.byteCount, Header.wordCount]
    omega
  · intro hn
    have hlt : n.toNat < UInt64.size := n.toNat_lt
    have hdata := Word.mul?_eq_ok.1
      (ok_of_toNat_mul (show l.numRecords.toNat * l.recordSize.toNat < UInt64.size by omega))
    have hcounters := Word.mul?_eq_ok.1
      (ok_of_toNat_mul (show l.numCounters.toNat * counterSize.toNat < UInt64.size from
        (show l.numCounters.toNat * 8 < UInt64.size by omega)))
    refine ⟨l.numRecords * l.recordSize, hdata, l.numCounters * counterSize, hcounters, ?_⟩
    rw [hdata, hcounters, UInt64.toNat_ofNat', hn]
    simp only [Header.byteCount, Header.wordCount, show counterSize.toNat = 8 from rfl]
    omega

/-- The layout was accepted for records of `recordSize` bytes and spans of the given lengths. -/
structure Fits (l : Layout) (recordSize data counters names : UInt64) : Prop where
  recordSize_eq : l.recordSize = recordSize
  recordSize_pos : 0 < recordSize.toNat
  recordSize_mod : recordSize.toNat % 8 = 0
  numRecords : l.numRecords.toNat = (data.toNat + recordSize.toNat - 1) / recordSize.toNat
  numCounters : l.numCounters.toNat = (counters.toNat + 7) / 8
  numBitmapBytes : l.numBitmapBytes = 0
  paddingAfterBitmap : l.paddingAfterBitmap = 0
  namesSize : l.namesSize = names
  paddingAfterNames : l.paddingAfterNames.toNat = (8 - names.toNat % 8) % 8
  length_lt : l.length < UInt64.size

variable {l : Layout} {recordSize data counters names : UInt64}

theorem fits_of_compute (h : compute recordSize data counters names = .ok l) :
    l.Fits recordSize data counters names := by
  unfold compute at h
  split at h
  · cases h
  · next hsize =>
    simp only [not_or, Decidable.not_not] at hsize
    obtain ⟨hzero, hmod⟩ := hsize
    obtain ⟨total, htotal, hl⟩ := bind_eq_ok_iff.1 h
    cases hl
    refine ⟨rfl, Nat.pos_of_ne_zero fun h0 => hzero ?_, ?_, Word.toNat_ceilDiv _ _,
      Word.toNat_ceilDiv _ _, rfl, rfl, rfl, toNat_wordPadding names, ?_⟩
    · exact UInt64.toNat_inj.1 h0
    · exact (UInt64.toNat_mod recordSize 8).symm.trans (congrArg UInt64.toNat hmod)
    · rw [← totalLength_eq_ok_iff.1 htotal]
      exact total.toNat_lt

namespace Fits

theorem length_eq (h : l.Fits recordSize data counters names) :
    l.length = Header.byteCount + l.numRecords.toNat * recordSize.toNat + l.numCounters.toNat * 8 +
      names.toNat + l.paddingAfterNames.toNat := by
  rw [length, h.recordSize_eq, h.numBitmapBytes, h.paddingAfterBitmap, h.namesSize]
  rfl

theorem data_le (h : l.Fits recordSize data counters names) :
    data.toNat ≤ l.numRecords.toNat * recordSize.toNat := by
  have hpos := h.recordSize_pos
  have hdiv := Nat.div_add_mod (data.toNat + recordSize.toNat - 1) recordSize.toNat
  have hmod := Nat.mod_lt (data.toNat + recordSize.toNat - 1) hpos
  rw [h.numRecords, Nat.mul_comm]
  omega

theorem counters_le (h : l.Fits recordSize data counters names) :
    counters.toNat ≤ l.numCounters.toNat * 8 := by
  rw [h.numCounters]
  omega

theorem padding_lt (h : l.Fits recordSize data counters names) :
    l.paddingAfterNames.toNat < 8 := by
  rw [h.paddingAfterNames]
  exact Nat.mod_lt _ (by decide)

theorem dvd_length (h : l.Fits recordSize data counters names) : 8 ∣ l.length := by
  have hdata : 8 ∣ l.numRecords.toNat * recordSize.toNat :=
    Nat.dvd_mul_left_of_dvd (Nat.dvd_of_mod_eq_zero h.recordSize_mod) _
  rw [h.length_eq, h.paddingAfterNames]
  simp only [Header.byteCount, Header.wordCount]
  omega

theorem totalLength (h : l.Fits recordSize data counters names) :
    l.totalLength = .ok (.ofNat l.length) :=
  totalLength_eq_ok_iff.2 (by rw [UInt64.toNat_ofNat', Nat.mod_eq_of_lt h.length_lt])

theorem toNat_dataBytes (h : l.Fits recordSize data counters names) :
    (l.numRecords * l.recordSize).toNat = l.numRecords.toNat * recordSize.toNat := by
  have := h.length_lt
  rw [h.length_eq] at this
  rw [h.recordSize_eq]
  exact Word.mul?_eq_ok.1 (ok_of_toNat_mul (by omega))

theorem toNat_counterBytes (h : l.Fits recordSize data counters names) :
    (l.numCounters * counterSize).toNat = l.numCounters.toNat * 8 := by
  have := h.length_lt
  rw [h.length_eq] at this
  exact Word.mul?_eq_ok.1 (ok_of_toNat_mul (show l.numCounters.toNat * 8 < _ by omega))

theorem dataBytes (h : l.Fits recordSize data counters names) :
    l.dataBytes = .ok (l.numRecords * l.recordSize) :=
  dataBytes_eq_ok_iff.2 (by rw [h.toNat_dataBytes, h.recordSize_eq])

theorem counterBytes (h : l.Fits recordSize data counters names) :
    l.counterBytes = .ok (l.numCounters * counterSize) :=
  counterBytes_eq_ok_iff.2 h.toNat_counterBytes

end Fits

end Layout

end RawProfile

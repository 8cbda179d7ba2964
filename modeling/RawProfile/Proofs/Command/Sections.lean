import RawProfile.Command.Specimen
import RawProfile.Proofs.Layout.Exact
import RawProfile.Proofs.Memory.ByteMap
import RawProfile.Proofs.SegmentWriter.Delivery

/-!
# The sections of the specimen

Up to a certain size, the specimen fits into memory: the records, the counters and the names lie
apart, each as one string from its base on (`exists_memory`). One function more adds its record to
the end of the records and its counters to the end of the counters.
-/

namespace RawProfile.Specimen

/-- A specimen that is not too large for its places in memory. -/
structure Size.Bounded (size : Size) : Prop where
  functions : size.functions.toNat ≤ 4096
  counters : size.counters.toNat ≤ 1024
  namesLength : size.namesLength.toNat ≤ 1048576

def recordBytes (size : Size) (n : Nat) : ByteArray :=
  joined ((List.range n).map fun i => (record size i).encode)

def counterWords (size : Size) (n : Nat) : List UInt64 :=
  (List.range n).flatMap (counterValues size)

variable {size : Size} {n i : Nat}

theorem recordBytes_succ (size : Size) (n : Nat) :
    recordBytes size (n + 1) = recordBytes size n ++ (record size n).encode := by
  rw [recordBytes, List.range_succ, List.map_append, joined_append, ← recordBytes]
  exact congrArg _ ByteArray.append_empty

@[simp] theorem size_recordBytes (size : Size) (n : Nat) :
    (recordBytes size n).size = 64 * n := by
  induction n with
  | zero => rfl
  | succ n ih =>
    rw [recordBytes_succ, ByteArray.size_append, ih, FunctionRecord.size_encode,
      FunctionRecord.byteCount]
    omega

theorem counterWords_succ (size : Size) (n : Nat) :
    counterWords size (n + 1) = counterWords size n ++ counterValues size n := by
  rw [counterWords, List.range_succ, List.flatMap_append, ← counterWords, List.flatMap_singleton]

@[simp] theorem length_counterValues (size : Size) (i : Nat) :
    (counterValues size i).length = size.counters.toNat := by
  simp [counterValues]

@[simp] theorem length_counterWords (size : Size) (n : Nat) :
    (counterWords size n).length = n * size.counters.toNat := by
  induction n with
  | zero => simp [counterWords]
  | succ n ih =>
    rw [counterWords_succ, List.length_append, ih, length_counterValues, Nat.succ_mul]

@[simp] theorem size_names (size : Size) : (names size).size = size.namesLength.toNat := by
  simp [names]

/-! ## Places -/

theorem toNat_dataBase : dataBase.toNat = 0x100000 := rfl

theorem toNat_countersBase : countersBase.toNat = 0x1000000 := rfl

theorem toNat_namesBase : namesBase.toNat = 0x10000000 := rfl

theorem toNat_recordAddress (h : i ≤ 4096) : (recordAddress i).toNat = dataBase.toNat + 64 * i := by
  rw [recordAddress, UInt64.toNat_add, UInt64.toNat_ofNat', FunctionRecord.byteCount,
    toNat_dataBase]
  omega

theorem Size.Bounded.mul_counters_le (h : size.Bounded) (hi : i ≤ size.functions.toNat) :
    i * size.counters.toNat ≤ 4096 * 1024 :=
  Nat.mul_le_mul (Nat.le_trans hi h.functions) h.counters

theorem toNat_countersAddress (h : size.Bounded) (hi : i ≤ size.functions.toNat) :
    (countersAddress size i).toNat = countersBase.toNat + 8 * (i * size.counters.toNat) := by
  have := h.mul_counters_le hi
  rw [countersAddress, UInt64.toNat_add, UInt64.toNat_ofNat', show counterSize.toNat = 8 from rfl,
    toNat_countersBase]
  omega

/-! ## Memory -/

/-- Puts the record of a function and its counters in their places. -/
def putFunction (size : Size) (m : SparseMemory) (i : Nat) : Except WordFault SparseMemory := do
  (← m.writeRecord (recordAddress i) (record size i)).writeCounters (countersAddress size i)
    (counterValues size i)

theorem memory_eq (size : Size) : memory size = (do
    let functions ← (List.range size.functions.toNat).foldlM (putFunction size) .empty
    if size.namesLength = 0 then return functions
    else functions.write namesBase (names size)) := rfl

/-- One function more: its record comes after the records, and its counters after the counters. -/
theorem exists_putFunction {m : SparseMemory} (h : size.Bounded) (hi : i < size.functions.toNat)
    (hdata : (MemoryImage.sparse m).Holds dataBase.toNat (recordBytes size i))
    (hcounters : (MemoryImage.sparse m).Holds countersBase.toNat
      (wordsBytes (counterWords size i))) :
    ∃ m', putFunction size m i = .ok m' ∧
      (MemoryImage.sparse m').Holds dataBase.toNat (recordBytes size (i + 1)) ∧
      (MemoryImage.sparse m').Holds countersBase.toNat
        (wordsBytes (counterWords size (i + 1))) := by
  have hfew := h.functions
  have hall := h.mul_counters_le (i := i + 1) hi
  rw [Nat.succ_mul] at hall
  have hrecordAt := toNat_recordAddress (i := i) (by omega)
  have hcountersAt := toNat_countersAddress h (Nat.le_of_lt hi)
  have hrecordSize : (record size i).encode.size = 64 := FunctionRecord.size_encode _
  have hcountersSize : (wordsBytes (counterValues size i)).size = 8 * size.counters.toNat := by
    rw [size_wordsBytes, length_counterValues]
  have hdataBase := toNat_dataBase
  have hcountersBase := toNat_countersBase
  obtain ⟨m₁, hm₁⟩ := m.exists_write (recordAddress i)
    (record size i).encode (by simp only [UInt64.size]; omega)
  obtain ⟨m₂, hm₂⟩ := m₁.exists_write (countersAddress size i)
    (wordsBytes (counterValues size i)) (by simp only [UInt64.size]; omega)
  have hput : putFunction size m i = .ok m₂ := by
    rw [putFunction, SparseMemory.writeRecord, hm₁]
    exact hm₂
  refine ⟨m₂, hput, ?_, ?_⟩
  · rw [recordBytes_succ]
    refine SparseMemory.holds_write_of_apart hm₂ (.append ?_ ?_) (.inl ?_)
    · exact SparseMemory.holds_write_of_apart hm₁ hdata (.inl (by rw [size_recordBytes]; omega))
    · rw [size_recordBytes, ← hrecordAt]
      exact SparseMemory.holds_write hm₁
    · rw [ByteArray.size_append, size_recordBytes]
      omega
  · rw [counterWords_succ, wordsBytes_append]
    refine .append ?_ ?_
    · refine SparseMemory.holds_write_of_apart hm₂ ?_ (.inl ?_)
      · exact SparseMemory.holds_write_of_apart hm₁ hcounters (.inr (by omega))
      · rw [size_wordsBytes, length_counterWords]
        omega
    · rw [size_wordsBytes, length_counterWords, ← hcountersAt]
      exact SparseMemory.holds_write hm₂

theorem exists_putFunctions (h : size.Bounded) (hn : n ≤ size.functions.toNat) :
    ∃ m, (List.range n).foldlM (putFunction size) .empty = .ok m ∧
      (MemoryImage.sparse m).Holds dataBase.toNat (recordBytes size n) ∧
      (MemoryImage.sparse m).Holds countersBase.toNat (wordsBytes (counterWords size n)) := by
  induction n with
  | zero =>
    have hdata : recordBytes size 0 = .empty := rfl
    have hcounters : wordsBytes (counterWords size 0) = .empty := rfl
    rw [hdata, hcounters]
    exact ⟨.empty, rfl, MemoryImage.holds_empty _ _, MemoryImage.holds_empty _ _⟩
  | succ n ih =>
    obtain ⟨m, hm, hdata, hcounters⟩ := ih (by omega)
    obtain ⟨m', hm', hdata', hcounters'⟩ := exists_putFunction h hn hdata hcounters
    refine ⟨m', ?_, hdata', hcounters'⟩
    rw [List.range_succ, List.foldlM_append, bind_eq_ok_iff]
    refine ⟨m, hm, ?_⟩
    rw [List.foldlM_cons, hm']
    rfl

/-- The specimen fits into memory, with each section in one piece. -/
theorem exists_memory (h : size.Bounded) :
    ∃ m, memory size = .ok m ∧
      (MemoryImage.sparse m).Holds dataBase.toNat (recordBytes size size.functions.toNat) ∧
      (MemoryImage.sparse m).Holds countersBase.toNat
        (wordsBytes (counterWords size size.functions.toNat)) ∧
      (size.namesLength ≠ 0 → (MemoryImage.sparse m).Holds namesBase.toNat (names size)) := by
  obtain ⟨m, hm, hdata, hcounters⟩ := exists_putFunctions h (Nat.le_refl _)
  rw [memory_eq, hm]
  by_cases hnames : size.namesLength = 0
  · exact ⟨m, if_pos hnames, hdata, hcounters, fun hne => absurd hnames hne⟩
  · have hfew := h.functions
    have hall := h.mul_counters_le (Nat.le_refl _)
    have hlength := h.namesLength
    have hdataBase := toNat_dataBase
    have hcountersBase := toNat_countersBase
    have hnamesBase := toNat_namesBase
    obtain ⟨m', hm'⟩ := m.exists_write namesBase (names size)
      (by rw [size_names]; simp only [UInt64.size]; omega)
    refine ⟨m', (if_neg hnames).trans hm', ?_, ?_, fun _ => SparseMemory.holds_write hm'⟩
    · refine SparseMemory.holds_write_of_apart hm' hdata (.inl ?_)
      rw [size_recordBytes]
      omega
    · refine SparseMemory.holds_write_of_apart hm' hcounters (.inl ?_)
      rw [size_wordsBytes, length_counterWords]
      omega

end RawProfile.Specimen

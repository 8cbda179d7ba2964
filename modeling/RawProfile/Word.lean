/-!
# Machine words

Arithmetic on 64-bit words with each way of treating a result that does not fit: `add?` and `mul?`
refuse it, `addClamped` and `subClamped` stop at the end of the range, and the operators `+` and
`-` of `UInt64` wrap. The lemmas read every operation off as a statement about `Nat`.
-/

namespace RawProfile

inductive WordFault where
  | addition
  | multiplication
  deriving DecidableEq, Repr

def WordFault.message : WordFault → String
  | .addition => "attempt to add with overflow"
  | .multiplication => "attempt to multiply with overflow"

namespace Word

/-- The exact sum, refused when it does not fit into a word. -/
def add? (a b : UInt64) : Except WordFault UInt64 :=
  if a.toNat + b.toNat < UInt64.size then .ok (a + b) else .error .addition

/-- The exact product, refused when it does not fit into a word. -/
def mul? (a b : UInt64) : Except WordFault UInt64 :=
  if a.toNat * b.toNat < UInt64.size then .ok (a * b) else .error .multiplication

/-- The sum, or the largest word where the sum is larger. -/
def addClamped (a b : UInt64) : UInt64 :=
  UInt64.ofNat (min (a.toNat + b.toNat) (UInt64.size - 1))

/-- The difference, or zero where it is negative. -/
def subClamped (a b : UInt64) : UInt64 :=
  UInt64.ofNat (a.toNat - b.toNat)

/-- How many blocks of `b` it takes to hold `a`. -/
def ceilDiv (a b : UInt64) : UInt64 :=
  UInt64.ofNat ((a.toNat + b.toNat - 1) / b.toNat)

theorem add?_eq_ok {a b c : UInt64} :
    add? a b = .ok c ↔ c.toNat = a.toNat + b.toNat := by
  unfold add?
  have := c.toNat_lt
  split <;> rename_i h <;> simp only [UInt64.size] at h
  · simp only [Except.ok.injEq, ← UInt64.toNat_inj, UInt64.toNat_add, Nat.mod_eq_of_lt h]
    exact eq_comm
  · simp only [reduceCtorEq, false_iff]
    omega

theorem mul?_eq_ok {a b c : UInt64} :
    mul? a b = .ok c ↔ c.toNat = a.toNat * b.toNat := by
  unfold mul?
  have := c.toNat_lt
  split <;> rename_i h <;> simp only [UInt64.size] at h
  · simp only [Except.ok.injEq, ← UInt64.toNat_inj, UInt64.toNat_mul, Nat.mod_eq_of_lt h]
    exact eq_comm
  · simp only [reduceCtorEq, false_iff]
    omega

theorem toNat_addClamped (a b : UInt64) :
    (addClamped a b).toNat = min (a.toNat + b.toNat) (UInt64.size - 1) := by
  simp only [addClamped, UInt64.toNat_ofNat', UInt64.size]
  omega

theorem toNat_subClamped (a b : UInt64) : (subClamped a b).toNat = a.toNat - b.toNat := by
  have := a.toNat_lt
  simp only [subClamped, UInt64.toNat_ofNat']
  omega

theorem toNat_ceilDiv (a b : UInt64) :
    (ceilDiv a b).toNat = (a.toNat + b.toNat - 1) / b.toNat := by
  have ha := a.toNat_lt
  have hle : (a.toNat + b.toNat - 1) / b.toNat ≤ a.toNat := by
    rcases Nat.eq_zero_or_pos b.toNat with hb | hb
    · simp [hb]
    · refine Nat.le_of_lt_succ ((Nat.div_lt_iff_lt_mul hb).2 ?_)
      have := Nat.le_mul_of_pos_right a.toNat hb
      rw [Nat.succ_mul]
      omega
  rw [ceilDiv, UInt64.toNat_ofNat', Nat.mod_eq_of_lt (Nat.lt_of_le_of_lt hle ha)]

theorem toNat_min (a b : UInt64) : (min a b).toNat = min a.toNat b.toNat := by
  change (if a ≤ b then a else b).toNat = _
  simp only [UInt64.le_iff_toNat_le, Nat.min_def, apply_ite UInt64.toNat]

theorem toNat_max (a b : UInt64) : (max a b).toNat = max a.toNat b.toNat := by
  change (if a ≤ b then b else a).toNat = _
  simp only [UInt64.le_iff_toNat_le, Nat.max_def, apply_ite UInt64.toNat]

end Word

theorem toInt_toInt64_emod (w : UInt64) : w.toInt64.toInt % UInt64.size = w.toNat := by
  have h : w.toInt64.toInt = Int.bmod w.toNat UInt64.size := BitVec.toInt_eq_toNat_bmod w.toBitVec
  have := w.toNat_lt
  rw [h, Int.bmod_def]
  simp only [UInt64.size]
  split <;> omega

/-- A signed distance is gone modulo `2 ^ 64`. -/
theorem toNat_add_toUInt64 (a : UInt64) (distance : Int64) :
    ((a + distance.toUInt64).toNat : Int) = (a.toNat + distance.toInt) % UInt64.size := by
  have hdistance := toInt_toInt64_emod distance.toUInt64
  rw [Int64.toInt64_toUInt64] at hdistance
  rw [UInt64.toNat_add]
  simp only [UInt64.size] at hdistance ⊢
  omega

/-- A distance, read as a signed number, leads back to where it was measured. -/
theorem add_toInt64_emod (a b : UInt64) :
    ((a.toNat : Int) + (b - a).toInt64.toInt) % UInt64.size = b.toNat := by
  have := b.toNat_lt
  have hsum : (a + (b - a)).toNat = b.toNat := by rw [show a + (b - a) = b by grind]
  rw [UInt64.toNat_add] at hsum
  have := toInt_toInt64_emod (b - a)
  simp only [UInt64.size] at this ⊢
  omega

end RawProfile

import Mathlib.Data.List.Induction
import RawProfile.Proofs.Memory.ByteMap

/-!
# Memory after any number of writes

`SparseMemory.replay` performs calls one after the other, of which those that do not fit are refused
and change nothing. `at?_replay_eq_some_iff` says what memory is then: at each address the byte of
the last write that covers it. `read_replay` carries this over to reading.
-/

namespace RawProfile.SparseMemory

inductive Content where
  | bytes (bytes : ByteArray)
  | record (record : FunctionRecord)
  | counters (values : List UInt64)

def Content.encode : Content → ByteArray
  | .bytes b => b
  | .record r => r.encode
  | .counters values => wordsBytes values

/-- A call that puts something at an address. -/
structure Write where
  address : UInt64
  content : Content

namespace Write

def bytes (w : Write) : ByteArray := w.content.encode

def Fits (w : Write) : Prop := w.address.toNat + w.bytes.size < UInt64.size

def Covers (w : Write) (a : Nat) : Prop :=
  w.Fits ∧ w.address.toNat ≤ a ∧ a < w.address.toNat + w.bytes.size

/-- The write puts this byte at an address. -/
def Puts (w : Write) (a : Nat) (b : UInt8) : Prop :=
  w.Fits ∧ ∃ i, ∃ hi : i < w.bytes.size, w.address.toNat + i = a ∧ w.bytes[i] = b

def perform (w : Write) (m : SparseMemory) : Except WordFault SparseMemory :=
  match w.content with
  | .bytes b => m.write w.address b
  | .record r => m.writeRecord w.address r
  | .counters values => m.writeCounters w.address values

end Write

/-- The memory after a call; a call that is refused leaves it as it was. -/
def after (m : SparseMemory) (w : Write) : SparseMemory :=
  match w.perform m with
  | .ok m' => m'
  | .error _ => m

def replay (m : SparseMemory) (ws : List Write) : SparseMemory := ws.foldl after m

/-- The byte at an address comes from the last of the writes that cover it. -/
def LastPut (ws : List Write) (a : Nat) (b : UInt8) : Prop :=
  ∃ earlier w later, ws = earlier ++ w :: later ∧ w.Puts a b ∧ ∀ v ∈ later, ¬ v.Covers a

namespace Write

variable {w : Write} {m m' : SparseMemory} {a : Nat} {b : UInt8}

theorem perform_eq (w : Write) (m : SparseMemory) : w.perform m = m.write w.address w.bytes := by
  obtain ⟨address, content⟩ := w
  cases content with
  | bytes b => rfl
  | record r => rfl
  | counters values => rfl

theorem perform_eq_ok (h : w.Fits) (m : SparseMemory) : ∃ m', w.perform m = .ok m' := by
  unfold Fits at h
  rw [perform_eq, write, dif_pos h]
  exact ⟨_, rfl⟩

theorem perform_eq_error (h : ¬ w.Fits) (m : SparseMemory) : w.perform m = .error .addition := by
  rw [perform_eq]
  exact write_eq_error_iff.2 ⟨Nat.not_lt.1 h, rfl⟩

def region (w : Write) : Region := ⟨w.address, w.bytes⟩

theorem puts_iff : w.Puts a b ↔ w.Fits ∧ w.region.at? a = some b := by
  refine and_congr_right fun _ => ⟨?_, fun h => ?_⟩
  · rintro ⟨i, hi, rfl, rfl⟩
    have hbase : w.region.base.toNat ≤ w.address.toNat + i := Nat.le_add_right _ _
    have hoffset : w.address.toNat + i - w.region.base.toNat = i := Nat.add_sub_cancel_left _ _
    have hlimit : w.address.toNat + i - w.region.base.toNat < w.region.bytes.size := by
      rw [hoffset]
      exact hi
    rw [Region.at?_eq_getElem hbase hlimit]
    exact congrArg some (getElem_congr_idx hoffset)
  · obtain ⟨hbase, hlimit⟩ := Region.range_of_at? h
    have hi : a - w.address.toNat < w.bytes.size := by
      unfold Region.limit at hlimit
      change w.address.toNat ≤ a at hbase
      change a < w.address.toNat + w.bytes.size at hlimit
      omega
    rw [Region.at?_eq_getElem hbase hi] at h
    exact ⟨_, hi, Nat.add_sub_cancel' hbase, Option.some.inj h⟩

theorem covers_iff : w.Covers a ↔ w.Fits ∧ (w.region.at? a).isSome :=
  and_congr_right fun _ => (Region.isSome_at?_iff (r := w.region)).symm

/-- A write puts exactly one byte at each address that it covers. -/
theorem covers_iff_exists_puts : w.Covers a ↔ ∃ b, w.Puts a b := by
  simp only [covers_iff, puts_iff, Option.isSome_iff_exists, exists_and_left]

end Write

theorem after_of_fits {m m' : SparseMemory} {w : Write} (h : w.perform m = .ok m') :
    m.after w = m' := by
  rw [after, h]

theorem after_of_not_fits {w : Write} (h : ¬ w.Fits) (m : SparseMemory) : m.after w = m := by
  rw [after, Write.perform_eq_error h]

theorem at?_after_eq_some_iff {m : SparseMemory} {w : Write} {a : Nat} {b : UInt8} :
    (m.after w).at? a = some b ↔ w.Puts a b ∨ ¬ w.Covers a ∧ m.at? a = some b := by
  rw [Write.puts_iff, Write.covers_iff]
  by_cases hfits : w.Fits
  · obtain ⟨m', hperform⟩ := Write.perform_eq_ok hfits m
    rw [after_of_fits hperform]
    rw [Write.perform_eq] at hperform
    rw [at?_write hperform a]
    change (w.region.at? a).or (m.at? a) = some b ↔ _
    cases w.region.at? a with
    | none => simp [hfits]
    | some c => simp [hfits]
  · rw [after_of_not_fits hfits]
    simp [hfits]

/-- After one more write, the last byte put is the one that this write puts, or the one before. -/
theorem lastPut_concat {ws : List Write} {w : Write} {a : Nat} {b : UInt8} :
    LastPut (ws ++ [w]) a b ↔ w.Puts a b ∨ ¬ w.Covers a ∧ LastPut ws a b := by
  constructor
  · rintro ⟨earlier, v, later, heq, hputs, hlater⟩
    rcases List.eq_nil_or_concat later with rfl | ⟨later, u, rfl⟩
    · obtain ⟨-, hv⟩ := List.append_inj' heq rfl
      cases hv
      exact .inl hputs
    · rw [List.concat_eq_append, ← List.cons_append, ← List.append_assoc] at heq
      obtain ⟨hws, hu⟩ := List.append_inj' heq rfl
      cases hu
      rw [List.concat_eq_append] at hlater
      refine .inr ⟨hlater w (by simp), earlier, v, later, hws, hputs, fun x hx => ?_⟩
      exact hlater x (List.mem_append_left _ hx)
  · rintro (hputs | ⟨hcovers, earlier, v, later, rfl, hputs, hlater⟩)
    · exact ⟨ws, w, [], rfl, hputs, fun _ h => absurd h List.not_mem_nil⟩
    · refine ⟨earlier, v, later ++ [w], by simp, hputs, fun x hx => ?_⟩
      rcases List.mem_append.1 hx with hx | hx
      · exact hlater x hx
      · rw [List.mem_singleton.1 hx]
        exact hcovers

/-- Memory holds at each address what was put there last. -/
theorem at?_replay_eq_some_iff {ws : List Write} {a : Nat} {b : UInt8} :
    (empty.replay ws).at? a = some b ↔ LastPut ws a b := by
  induction ws using List.reverseRecOn with
  | nil =>
    constructor
    · intro h
      cases h
    · rintro ⟨earlier, w, later, h, -⟩
      cases earlier <;> cases h
  | append_singleton ws w ih =>
    rw [replay, List.foldl_append, List.foldl_cons, List.foldl_nil, ← replay,
      at?_after_eq_some_iff, lastPut_concat, ih]

theorem exists_lastPut_iff {ws : List Write} {a : Nat} :
    (∃ b, LastPut ws a b) ↔ ∃ w ∈ ws, w.Covers a := by
  induction ws using List.reverseRecOn with
  | nil =>
    simp only [List.not_mem_nil, false_and, exists_false, iff_false, not_exists]
    rintro b ⟨earlier, w, later, h, -⟩
    cases earlier <;> cases h
  | append_singleton ws w ih =>
    simp only [lastPut_concat, exists_or, exists_and_left, ih, ← Write.covers_iff_exists_puts,
      List.mem_append, List.mem_singleton, or_and_right, exists_eq_left]
    by_cases h : w.Covers a <;> simp [h]

/-- After any calls, a range can be read exactly if writes that were not refused cover all of it,
and it reads as the bytes that were put there last. -/
theorem read_replay (ws : List Write) (start length : UInt64) :
    let m := empty.replay ws
    (∀ w : Write, (w.Fits ∧ ∃ m', w.perform m = .ok m' ∧ m.after w = m') ∨
      (UInt64.size ≤ w.address.toNat + w.bytes.size ∧ w.perform m = .error .addition ∧
        m.after w = m)) ∧
    ((m.read start length).isSome ↔ ∀ a, start.toNat ≤ a → a < start.toNat + length.toNat →
      ∃ w ∈ ws, w.Covers a) ∧
    (∀ bytes, m.read start length = some bytes ↔
      bytes.size = length.toNat ∧
        ∀ i, (hi : i < bytes.size) → LastPut ws (start.toNat + i) bytes[i]) ∧
    m.read start 0 = some .empty := by
  intro m
  refine ⟨fun w => ?_, ?_, fun bytes => ?_, rfl⟩
  · by_cases hfits : w.Fits
    · obtain ⟨m', hperform⟩ := Write.perform_eq_ok hfits m
      exact .inl ⟨hfits, m', hperform, after_of_fits hperform⟩
    · exact .inr ⟨Nat.not_lt.1 hfits, Write.perform_eq_error hfits m, after_of_not_fits hfits m⟩
  · rw [isSome_read_iff]
    simp only [Option.isSome_iff_exists, m, at?_replay_eq_some_iff, exists_lastPut_iff]
  · rw [read_eq_some_iff]
    refine and_congr_right fun _ => forall₂_congr fun i hi => ?_
    exact at?_replay_eq_some_iff

end RawProfile.SparseMemory

import RawProfile.Proofs.Dump.File
import RawProfile.Proofs.Dump.Source
import RawProfile.Proofs.Transport.Lockstep

/-!
# The running process and a copy of it

The running process can be asked for a range that is empty or lies where memory can lie
(`Registry.Addressable`). Where that holds of the three sections, the process and any copy of their
bytes dump alike (`live_eq_copy`): the plans are the same, and transports that answer alike see the
same calls.
-/

namespace RawProfile

namespace ProcessMemory

theorem isSome_read_iff {m : ProcessMemory} {start length : UInt64} :
    (m.read start length).isSome ↔
      length.toNat = 0 ∨ (1 ≤ start.toNat ∧ start.toNat + length.toNat ≤ maxLimit) := by
  have hlength : length = 0 ↔ length.toNat = 0 := UInt64.toNat_inj.symm
  have hstart : start = 0 ↔ start.toNat = 0 := UInt64.toNat_inj.symm
  unfold read
  split
  · next h => simp [hlength.1 h]
  · next h =>
    rw [hlength] at h
    split
    · next hout =>
      rw [hstart] at hout
      simp only [Option.isSome_none, Bool.false_eq_true, false_iff]
      omega
    · next hin =>
      rw [hstart] at hin
      simp only [Option.isSome_some, true_iff]
      omega

end ProcessMemory

/-- The range of a section is empty, or lies where the memory of a process can lie. -/
def Registry.Addressable (r : Registry) (which : Section) : Prop :=
  r.sectionSize which = 0 ∨ (1 ≤ (r.sectionStart which).toNat ∧
    (r.sectionStart which).toNat + r.sectionSize which ≤ ProcessMemory.maxLimit)

theorem Registry.Addressable.toNat_size {r : Registry} {which : Section}
    (h : r.Addressable which) :
    (UInt64.ofNat (r.sectionSize which)).toNat = r.sectionSize which := by
  have hlimit : ProcessMemory.maxLimit < UInt64.size := by decide
  refine UInt64.toNat_ofNat_of_lt' ?_
  rcases h with hempty | ⟨-, hend⟩
  · rw [hempty]
    decide
  · omega

namespace Dump

variable {d : Dump} {l : Layout} {r : Registry} {which : Section}

theorem isSome_range_live_iff {memory : ProcessMemory} (h : d.registry.layout = .ok l)
    (himage : d.image = .live memory) :
    (d.range which).isSome ↔ d.registry.Addressable which := by
  rw [range, himage]
  refine ProcessMemory.isSome_read_iff.trans ?_
  rw [toNat_sectionSize h which]
  rfl

/-- What writes left in the range of a section are the bytes that the process has there. -/
def Copies (r : Registry) (memory : ProcessMemory) (ws : List SparseMemory.Write) : Prop :=
  ∀ which a, (r.sectionStart which).toNat ≤ a →
    a < (r.sectionStart which).toNat + r.sectionSize which →
    SparseMemory.LastPut ws a (memory.byteAt (.ofNat a))

theorem read_live_eq_copy {memory : ProcessMemory} {ws : List SparseMemory.Write}
    {start length : UInt64}
    (hrange : length.toNat = 0 ∨
      (1 ≤ start.toNat ∧ start.toNat + length.toNat ≤ ProcessMemory.maxLimit))
    (hbytes : ∀ a, start.toNat ≤ a → a < start.toNat + length.toNat →
      SparseMemory.LastPut ws a (memory.byteAt (.ofNat a))) :
    memory.read start length = (SparseMemory.empty.replay ws).read start length := by
  obtain ⟨bytes, hread⟩ := Option.isSome_iff_exists.1 (ProcessMemory.isSome_read_iff.2 hrange)
  have hsize := ProcessMemory.size_of_read hread
  rw [hread]
  symm
  refine SparseMemory.read_eq_some_iff.2 ⟨hsize, fun i hi => ?_⟩
  rw [← (ProcessMemory.byteAt_of_read hread hi).2]
  exact SparseMemory.at?_replay_eq_some_iff.2 (hbytes _ (by omega) (by omega))

theorem range_live_eq_copy {memory : ProcessMemory} {ws : List SparseMemory.Write}
    (hrange : ∀ which, r.Addressable which) (hcopy : Copies r memory ws) (which : Section) :
    ({ registry := r, image := .live memory } : Dump).range which =
      ({ registry := r, image := .sparse (SparseMemory.empty.replay ws) } : Dump).range which := by
  have hsize := (hrange which).toNat_size
  refine read_live_eq_copy ?_ fun a hstart hend => hcopy which a hstart ?_
  · rw [hsize]
    exact hrange which
  · rwa [hsize] at hend

section Transport

variable {σ τ : Type} [Transport σ] [Transport τ]

theorem phase_writeTo (d : Dump) (fileName : String) (t : σ) :
    (d.writeTo fileName t).value.2.phase =
      match d.plan.value with
      | .error _ => .idle
      | .ok _ => .closed := by
  cases hplan : d.plan.value with
  | error e => rw [(writeTo_unplanned hplan).1]
  | ok p => rw [(writeTo_planned hplan fileName t).1]

theorem writeTo_congr_plan {d d' : Dump} (hplan : d.plan.value = d'.plan.value)
    (fileName : String) {t : σ} {t' : τ} (h : Alike t t') :
    (d.writeTo fileName t).value.1 = (d'.writeTo fileName t').value.1 ∧
      (d.writeTo fileName t).value.2.phase = (d'.writeTo fileName t').value.2.phase ∧
      (d.writeTo fileName t).calls = (d'.writeTo fileName t').calls := by
  obtain ⟨R, hR, ht⟩ := h
  obtain ⟨hvalue, hcalls, -⟩ := lockstep_writeTo hR hplan fileName t t' ht
  rw [Run.calls_bind, Run.calls_bind] at hcalls
  refine ⟨hvalue, ?_, ?_⟩
  · rw [phase_writeTo, phase_writeTo, hplan]
  · simpa using hcalls

end Transport

/-- The running process and a copy of its memory, which may hold anything outside of the sections,
give the same plan and the same dump, if every section that is not empty lies where memory can lie.
The first section that does not is what a dump of the process fails for, once the layout has been
accepted. -/
theorem live_eq_copy (r : Registry) (memory : ProcessMemory) (ws : List SparseMemory.Write) :
    let live : Dump := { registry := r, image := .live memory }
    let copy : Dump := { registry := r, image := .sparse (SparseMemory.empty.replay ws) }
    ((∀ which, r.Addressable which) → Copies r memory ws →
      live.plan = copy.plan ∧
      (∀ which start length, live.plan.value ≠ .error (.sectionUnavailable which start length)) ∧
      ∀ {σ τ : Type} [Transport σ] [Transport τ] (fileName : String) (t : σ) (t' : τ),
        Alike t t' →
        (live.writeTo fileName t).value.1 = (copy.writeTo fileName t').value.1 ∧
        (live.writeTo fileName t).value.2.phase = (copy.writeTo fileName t').value.2.phase ∧
        (live.writeTo fileName t).calls = (copy.writeTo fileName t').calls) ∧
    (∀ e, live.plan.value = .error (.layout e) ↔ r.layout = .error e) ∧
    (∀ which start length, live.plan.value = .error (.sectionUnavailable which start length) ↔
      (∃ l, r.layout = .ok l) ∧ start = r.sectionStart which ∧
        length.toNat = r.sectionSize which ∧ ¬ r.Addressable which ∧
        ∀ s ∈ which.earlier, r.Addressable s) ∧
    (∀ e, live.plan.value = .error e →
      ∀ {σ : Type} [Transport σ] (fileName : String) (t : σ),
        (live.writeTo fileName t).value = (.error e, live) ∧
        (live.writeTo fileName t).transport = t ∧ (live.writeTo fileName t).calls = []) := by
  intro live copy
  have hnative : ¬ live.Foreign := fun h => h.2 rfl
  have haddressable : ∀ {l}, r.layout = .ok l → ∀ s, (live.range s).isSome ↔ r.Addressable s :=
    fun hlayout s => isSome_range_live_iff hlayout rfl
  refine ⟨fun hrange hcopy => ?_, fun e => ?_,
    fun which start length => plan_eq_unavailable_iff hnative haddressable,
    fun e hplan σ _ fileName t => ?_⟩
  · have hplan : live.plan = copy.plan :=
      plan_congr_range live (iff_of_false hnative fun h => Bool.false_ne_true h.1)
        (range_live_eq_copy hrange hcopy)
    refine ⟨hplan, fun which start length h => ?_, fun fileName t t' halike => ?_⟩
    · obtain ⟨-, -, -, hunreadable, -⟩ := (plan_eq_unavailable_iff hnative haddressable).1 h
      exact hunreadable (hrange which)
    · exact writeTo_congr_plan (congrArg Logged.value hplan) fileName halike
  · rw [plan_eq_layout_iff]
    exact and_iff_right hnative
  · exact writeTo_unplanned hplan

def copyOf (r : Registry) (memory : ProcessMemory) (which : Section) : SparseMemory.Write :=
  ⟨r.sectionStart which,
    .bytes (memory.bytes (r.sectionStart which) (.ofNat (r.sectionSize which)))⟩

def snapshot (r : Registry) (memory : ProcessMemory) : List SparseMemory.Write :=
  [copyOf r memory .data, copyOf r memory .counters, copyOf r memory .names]

theorem copyOf_mem_snapshot (r : Registry) (memory : ProcessMemory) (which : Section) :
    copyOf r memory which ∈ snapshot r memory := by
  cases which <;> simp [snapshot]

/-- Whatever a copy of a section puts at an address is the byte that the process has there. -/
theorem eq_byteAt_of_puts {memory : ProcessMemory} {w : SparseMemory.Write} {a : Nat} {b : UInt8}
    (hw : w ∈ snapshot r memory) (h : w.Puts a b) : b = memory.byteAt (.ofNat a) := by
  have hcopy : ∃ s, w = copyOf r memory s := by
    simp only [snapshot, List.mem_cons, List.not_mem_nil, or_false] at hw
    rcases hw with rfl | rfl | rfl
    · exact ⟨.data, rfl⟩
    · exact ⟨.counters, rfl⟩
    · exact ⟨.names, rfl⟩
  obtain ⟨s, rfl⟩ := hcopy
  obtain ⟨-, i, hi, rfl, rfl⟩ := h
  rw [UInt64.ofNat_add, UInt64.ofNat_toNat]
  exact memory.getElem_bytes _ _ hi

/-- A snapshot is a copy, however the sections overlap. -/
theorem copies_snapshot {memory : ProcessMemory} (h : ∀ which, r.Addressable which) :
    Copies r memory (snapshot r memory) := by
  intro which a hstart hend
  have hbytes : (copyOf r memory which).bytes.size = r.sectionSize which :=
    (memory.size_bytes _ _).trans (h which).toNat_size
  have haddress : (copyOf r memory which).address = r.sectionStart which := rfl
  have hcovers : (copyOf r memory which).Covers a := by
    have hlimit : ProcessMemory.maxLimit < UInt64.size := by decide
    have haddressable := h which
    unfold Registry.Addressable at haddressable
    unfold SparseMemory.Write.Covers SparseMemory.Write.Fits
    rw [hbytes, haddress]
    omega
  obtain ⟨b, hb⟩ := SparseMemory.exists_lastPut_iff.2
    ⟨copyOf r memory which, copyOf_mem_snapshot r memory which, hcovers⟩
  have hputs := hb
  obtain ⟨earlier, w, later, hws, hw, -⟩ := hputs
  have hmem : w ∈ snapshot r memory := by
    rw [hws]
    exact List.mem_append_right _ List.mem_cons_self
  rw [← eq_byteAt_of_puts hmem hw]
  exact hb

theorem live_eq_copy_small :
    let memory : ProcessMemory := ⟨UInt64.toUInt8⟩
    let ws := snapshot small.registry memory
    let copy : Dump := { small with image := .sparse (SparseMemory.empty.replay ws) }
    (∀ which, small.registry.Addressable which) ∧ Copies small.registry memory ws ∧
      (small.writeTo "small" ({} : ScriptedTransport)).calls =
        (copy.writeTo "small" ({} : ScriptedTransport)).calls := by
  intro memory ws copy
  have hrange : ∀ which, small.registry.Addressable which := by
    intro which
    cases which <;> exact .inr (by decide +kernel)
  have hcopy : Copies small.registry memory ws := copies_snapshot hrange
  obtain ⟨hdump, -⟩ := live_eq_copy small.registry memory ws
  obtain ⟨-, -, halike⟩ := hdump hrange hcopy
  exact ⟨hrange, hcopy, (halike "small" _ _ (.refl ({} : ScriptedTransport))).2.2⟩

end Dump

end RawProfile

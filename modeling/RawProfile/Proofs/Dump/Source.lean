import RawProfile.Proofs.Dump.Obstacle
import RawProfile.Proofs.Dump.Protocol
import RawProfile.Proofs.Memory.History

/-!
# Where the bytes of a dump come from

Whether a dump can be planned is a question about addresses: which of its ranges can be read. Over
sparse memory these are the ranges that writes cover from end to end (`isSome_range_sparse_iff`).
`plan_of_writes` says for which reason planning fails and in which order the reasons count.
-/

namespace RawProfile

namespace SparseMemory

/-- The writes that were not refused cover every address from `start` up to `start + length`. -/
def CoveredBy (ws : List Write) (start : UInt64) (length : Nat) : Prop :=
  ∀ a, start.toNat ≤ a → a < start.toNat + length → ∃ w ∈ ws, w.Covers a

theorem isSome_read_replay_iff {ws : List Write} {start length : UInt64} :
    ((empty.replay ws).read start length).isSome ↔ CoveredBy ws start length.toNat := by
  unfold CoveredBy
  rw [isSome_read_iff]
  simp only [Option.isSome_iff_exists, at?_replay_eq_some_iff, exists_lastPut_iff]

end SparseMemory

namespace Dump

variable {d : Dump} {l : Layout} {r : Registry} {which : Section}

theorem toNat_sectionSize (h : d.registry.layout = .ok l) (which : Section) :
    (UInt64.ofNat (d.registry.sectionSize which)).toNat = d.registry.sectionSize which :=
  UInt64.toNat_ofNat_of_lt' (Registry.sectionSize_lt h which)

theorem isSome_range_sparse_iff {ws : List SparseMemory.Write} (h : d.registry.layout = .ok l)
    (himage : d.image = .sparse (SparseMemory.empty.replay ws)) :
    (d.range which).isSome ↔ SparseMemory.CoveredBy ws (d.registry.sectionStart which)
      (d.registry.sectionSize which) := by
  rw [range, himage]
  refine SparseMemory.isSome_read_replay_iff.trans ?_
  rw [toNat_sectionSize h which]

section Readable

variable {Readable : Section → Prop} (hnative : ¬ d.Foreign)
  (hreadable : ∀ {l}, d.registry.layout = .ok l → ∀ s, (d.range s).isSome ↔ Readable s)

include hnative hreadable

/-- A section is reported as unavailable if its range is the first that cannot be read. -/
theorem plan_eq_unavailable_iff {start length : UInt64} :
    d.plan.value = .error (.sectionUnavailable which start length) ↔
      (∃ l, d.registry.layout = .ok l) ∧ start = d.registry.sectionStart which ∧
        length.toNat = d.registry.sectionSize which ∧ ¬ Readable which ∧
        ∀ s ∈ which.earlier, Readable s := by
  rw [plan_eq_error_iff]
  constructor
  · intro h
    cases h with
    | @range l _ _ hlayout hearlier hnone =>
      refine ⟨⟨l, hlayout⟩, rfl, toNat_sectionSize hlayout which, ?_, fun s hs => ?_⟩
      · rw [← hreadable hlayout, hnone]
        exact Bool.false_ne_true
      · exact (hreadable hlayout s).1 (hearlier s hs)
  · rintro ⟨⟨l, hlayout⟩, rfl, hlength, hunreadable, hearlier⟩
    have hword : length = .ofNat (d.registry.sectionSize which) :=
      UInt64.toNat_inj.1 (hlength.trans (toNat_sectionSize hlayout which).symm)
    rw [← hreadable hlayout] at hunreadable
    rw [hword]
    exact .range hnative hlayout (fun s hs => (hreadable hlayout s).2 (hearlier s hs))
      (Option.not_isSome_iff_eq_none.1 hunreadable)

theorem exists_plan_iff_readable :
    (∃ p, d.plan.value = .ok p) ↔ (∃ l, d.registry.layout = .ok l) ∧ ∀ s, Readable s := by
  rw [exists_plan_iff, and_iff_right hnative]
  refine and_congr_right fun ⟨l, hlayout⟩ => ?_
  exact forall_congr' fun s => hreadable hlayout s

end Readable

theorem plan_eq_layout_iff {e : LayoutError} :
    d.plan.value = .error (.layout e) ↔ ¬ d.Foreign ∧ d.registry.layout = .error e := by
  rw [plan_eq_error_iff]
  constructor
  · intro h
    cases h with
    | layout hnative hlayout => exact ⟨hnative, hlayout⟩
  · rintro ⟨hnative, hlayout⟩
    exact .layout hnative hlayout

theorem plan_eq_widthMismatch_iff {w : Width} :
    d.plan.value = .error (.widthMismatch w) ↔ d.Foreign ∧ w = d.width := by
  rw [plan_eq_error_iff]
  constructor
  · intro h
    cases h with
    | foreign hforeign => exact ⟨hforeign, rfl⟩
  · rintro ⟨hforeign, rfl⟩
    exact .foreign hforeign

section Transport

variable {σ : Type} [Transport σ]

theorem writeTo_uncalled_iff {e : DumpError} {fileName : String} {t : σ} :
    (d.writeTo fileName t).value.1 = .error e ∧ (d.writeTo fileName t).calls = [] ↔
      d.plan.value = .error e := by
  constructor
  · rintro ⟨hvalue, hcalls⟩
    cases hplan : d.plan.value with
    | error e' =>
      rw [(writeTo_unplanned hplan).1] at hvalue
      exact congrArg Except.error (Except.error.inj hvalue)
    | ok p =>
      rw [(writeTo_planned hplan fileName t).2] at hcalls
      cases hopen : (Transport.openFile t fileName).value.1 with
      | error e' =>
        rw [(send_unopened hopen).2] at hcalls
        cases hcalls
      | ok handle =>
        obtain ⟨calls, result, credit, -, hsend, -⟩ := send_opened (p := p) hopen
        rw [hsend] at hcalls
        cases hcalls
  · intro hplan
    exact ⟨congrArg Prod.fst (writeTo_unplanned hplan).1, (writeTo_unplanned hplan).2.2⟩

end Transport

/-- After any writes, planning fails for the first of these reasons that applies, and for nothing
else: the size of a record, a size that does not fit into a word, and a range that the writes do
not cover. What has no plan is not sent. -/
theorem plan_of_writes (r : Registry) (width : Width) (ws : List SparseMemory.Write) :
    let d : Dump := { registry := r, image := .sparse (SparseMemory.empty.replay ws), width }
    let Covered which := SparseMemory.CoveredBy ws (r.sectionStart which) (r.sectionSize which)
    (∀ n, d.plan.value = .error (.layout (.invalidRecordSize n)) ↔
      n = r.recordSize ∧ (n = 0 ∨ n % 8 ≠ 0)) ∧
    (∀ m, (d.plan.value = .error (.layout (.overflow m)) ↔ r.layout = .error (.overflow m)) ∧
      (r.layout = .error (.overflow m) ↔
        ¬ (r.recordSize = 0 ∨ r.recordSize % 8 ≠ 0) ∧ r.Exceeds m)) ∧
    (∀ which start length, d.plan.value = .error (.sectionUnavailable which start length) ↔
      (∃ l, r.layout = .ok l) ∧ start = r.sectionStart which ∧
        length.toNat = r.sectionSize which ∧ ¬ Covered which ∧ ∀ s ∈ which.earlier, Covered s) ∧
    ((∃ p, d.plan.value = .ok p) ↔ (∃ l, r.layout = .ok l) ∧ ∀ which, Covered which) ∧
    (∀ e, d.plan.value = .error e → (∃ e', e = .layout e') ∨
      ∃ which start length, e = .sectionUnavailable which start length) ∧
    (∀ which, r.sectionSize which = 0 → Covered which) ∧
    (∀ memory w, ({ registry := r, image := .live memory, width } : Dump).plan.value =
      .error (.widthMismatch w) ↔ width ≠ .native ∧ w = width) ∧
    (∀ image, ∀ {σ : Type} [Transport σ] (fileName : String) (t : σ) (e : DumpError),
      let d : Dump := { registry := r, image, width }
      (d.writeTo fileName t).value.1 = .error e ∧ (d.writeTo fileName t).calls = [] ↔
        d.plan.value = .error e) := by
  intro d Covered
  have hnative : ¬ d.Foreign := fun h => Bool.false_ne_true h.1
  have hcovered : ∀ {l}, r.layout = .ok l → ∀ s, (d.range s).isSome ↔ Covered s :=
    fun hlayout s => isSome_range_sparse_iff hlayout rfl
  refine ⟨fun n => ?_, fun m => ⟨?_, ?_⟩, fun which start length => ?_, ?_, fun e h => ?_, ?_, ?_, ?_⟩
  · rw [plan_eq_layout_iff]
    change _ ∧ r.layout = _ ↔ _
    rw [Registry.layout_eq_invalidRecordSize_iff, Layout.validSize_iff, Decidable.not_not]
    exact and_iff_right hnative
  · rw [plan_eq_layout_iff]
    exact and_iff_right hnative
  · rw [Registry.layout_eq_overflow_iff, Layout.validSize_iff]
  · exact plan_eq_unavailable_iff hnative hcovered
  · exact exists_plan_iff_readable hnative hcovered
  · cases plan_eq_error_iff.1 h with
    | foreign hforeign => exact absurd hforeign hnative
    | layout => exact .inl ⟨_, rfl⟩
    | range => exact .inr ⟨_, _, _, rfl⟩
  · intro which hsize a hstart hend
    rw [hsize] at hend
    omega
  · intro memory w
    rw [plan_eq_widthMismatch_iff]
    exact and_congr_left fun _ => and_iff_right rfl
  · intro image σ _ fileName t e
    exact writeTo_uncalled_iff

end Dump

end RawProfile

import RawProfile.Proofs.Dump.Copy

/-!
# What a dump does not see

A dump reads the addresses in its sections (`Registry.InSections`) and no others. Memory that holds
the same bytes at these addresses gives the same plan (`plan_congr_at?`), whatever regions the bytes
are kept in; so writes elsewhere do not show in a dump, also where they touch a section or join two
of them (`plan_of_outside`).
-/

namespace RawProfile

namespace SparseMemory

variable {m m' : SparseMemory} {start length : UInt64} {w : Write} {ws : List Write} {a : Nat}

theorem read_congr (h : ∀ a, start.toNat ≤ a → a < start.toNat + length.toNat →
    m.at? a = m'.at? a) : m.read start length = m'.read start length := by
  refine Option.ext fun bytes => ?_
  rw [read_eq_some_iff, read_eq_some_iff]
  refine and_congr_right fun hsize => forall₂_congr fun i hi => ?_
  have hbyte : m.at? (start.toNat + i) = m'.at? (start.toNat + i) := h _ (by omega) (by omega)
  exact Eq.congr_left hbyte

theorem at?_after_of_not_covers (h : ¬ w.Covers a) (m : SparseMemory) :
    (m.after w).at? a = m.at? a := by
  refine Option.ext fun b => ?_
  have hputs : ¬ w.Puts a b := fun hb => h (Write.covers_iff_exists_puts.2 ⟨b, hb⟩)
  rw [at?_after_eq_some_iff]
  exact (or_iff_right hputs).trans (and_iff_right h)

theorem at?_replay_of_not_covers (h : ∀ w ∈ ws, ¬ w.Covers a) (m : SparseMemory) :
    (m.replay ws).at? a = m.at? a := by
  induction ws generalizing m with
  | nil => rfl
  | cons w ws ih =>
    obtain ⟨hw, hws⟩ := List.forall_mem_cons.1 h
    exact (ih hws (m.after w)).trans (at?_after_of_not_covers hw m)

theorem replay_append (m : SparseMemory) (ws later : List Write) :
    m.replay (ws ++ later) = (m.replay ws).replay later := List.foldl_append

end SparseMemory

/-- The address lies in the range of a section that a dump reads. If the layout is refused, nothing
is read. -/
def Registry.InSections (r : Registry) (a : Nat) : Prop :=
  (∃ l, r.layout = .ok l) ∧ ∃ which, (r.sectionStart which).toNat ≤ a ∧
    a < (r.sectionStart which).toNat + r.sectionSize which

namespace Dump

variable {d : Dump} {l : Layout} {m m' : SparseMemory}

theorem range_congr_at? (hlayout : d.registry.layout = .ok l)
    (h : ∀ a, d.registry.InSections a → m.at? a = m'.at? a) (which : Section) :
    ({ d with image := .sparse m } : Dump).range which =
      ({ d with image := .sparse m' } : Dump).range which := by
  refine SparseMemory.read_congr fun a hstart hend => h a ⟨⟨l, hlayout⟩, which, hstart, ?_⟩
  rwa [toNat_sectionSize hlayout which] at hend

/-- Of sparse memory, a plan sees the bytes in the sections. -/
theorem plan_congr_at? (h : ∀ a, d.registry.InSections a → m.at? a = m'.at? a) :
    ({ d with image := .sparse m } : Dump).plan = ({ d with image := .sparse m' } : Dump).plan := by
  have hnative : ∀ m, ¬ ({ d with image := .sparse m } : Dump).Foreign :=
    fun m h => Bool.false_ne_true h.1
  cases hlayout : d.registry.layout with
  | ok l =>
    exact plan_congr_range d (iff_of_false (hnative m) (hnative m')) (range_congr_at? hlayout h)
  | error e =>
    have hrefused : ∀ m, ({ d with image := .sparse m } : Dump).layout = .error (.layout e) := by
      intro m
      rw [layout_of_not_foreign (hnative m), hlayout]
      rfl
    rw [plan, plan, hrefused m, hrefused m']

/-- Further writes that stay outside of the sections change nothing about a dump: not its plan nor
why there is none, not what can be read, and neither its answer nor its calls. -/
theorem plan_of_outside (r : Registry) (width : Width) (ws later : List SparseMemory.Write)
    (houtside : ∀ w ∈ later, ∀ a, w.Covers a → ¬ r.InSections a) :
    let before : Dump := { registry := r, image := .sparse (SparseMemory.empty.replay ws), width }
    let after : Dump :=
      { registry := r, image := .sparse (SparseMemory.empty.replay (ws ++ later)), width }
    after.plan = before.plan ∧
    (∀ l, r.layout = .ok l → ∀ which, after.range which = before.range which) ∧
    ∀ {σ τ : Type} [Transport σ] [Transport τ] (fileName : String) (t : σ) (t' : τ), Alike t t' →
      (after.writeTo fileName t).value.1 = (before.writeTo fileName t').value.1 ∧
      (after.writeTo fileName t).value.2.phase = (before.writeTo fileName t').value.2.phase ∧
      (after.writeTo fileName t).calls = (before.writeTo fileName t').calls := by
  intro before after
  have hbytes : ∀ a, before.registry.InSections a →
      (SparseMemory.empty.replay (ws ++ later)).at? a = (SparseMemory.empty.replay ws).at? a := by
    intro a ha
    rw [SparseMemory.replay_append]
    exact SparseMemory.at?_replay_of_not_covers (fun w hw hcovers => houtside w hw a hcovers ha) _
  have hplan : after.plan = before.plan := plan_congr_at? (d := before) hbytes
  refine ⟨hplan, fun l hlayout => range_congr_at? (d := before) hlayout hbytes, ?_⟩
  intro σ τ _ _ fileName t t' halike
  exact writeTo_congr_plan (congrArg Logged.value hplan) fileName halike

/-- A record of 16 bytes, with two counters a little after it. -/
def spread : Registry := ((Registry.ofRecordSize 16).registerData ⟨0x1000, 0x20, 2⟩).value.2

def spreadWrites : List SparseMemory.Write :=
  [⟨0x1000, .bytes (zeroBytes 16)⟩, ⟨0x1020, .counters [5, 7]⟩]

/-- A write of all that lies between the record and its counters. -/
def bridge : SparseMemory.Write := ⟨0x1010, .counters [1, 2]⟩

/-- Two regions become one, and the dump is the same. -/
theorem plan_of_outside_bridge :
    let memory := SparseMemory.empty.replay spreadWrites
    let bridged := SparseMemory.empty.replay (spreadWrites ++ [bridge])
    (∀ a, bridge.Covers a → ¬ spread.InSections a) ∧
      memory.regionCount = 2 ∧ bridged.regionCount = 1 ∧
      (({ registry := spread, image := .sparse bridged } : Dump).writeTo "spread"
          ({} : ScriptedTransport)).calls =
        (({ registry := spread, image := .sparse memory } : Dump).writeTo "spread"
          ({} : ScriptedTransport)).calls := by
  intro memory bridged
  have houtside : ∀ a, bridge.Covers a → ¬ spread.InSections a := by
    rintro a ⟨-, hstart, hend⟩ ⟨-, which, hfrom, hto⟩
    change 0x1010 ≤ a at hstart
    change a < 0x1010 + 16 at hend
    cases which with
    | data =>
      change a < 0x1000 + 16 at hto
      omega
    | counters =>
      change 0x1020 ≤ a at hfrom
      omega
    | names =>
      change a < 0 + 0 at hto
      omega
  obtain ⟨-, -, hdump⟩ := plan_of_outside spread .native spreadWrites [bridge]
    (List.forall_mem_singleton.2 houtside)
  exact ⟨houtside, by decide +kernel, by decide +kernel,
    (hdump "spread" _ _ (.refl ({} : ScriptedTransport))).2.2⟩

end Dump

end RawProfile

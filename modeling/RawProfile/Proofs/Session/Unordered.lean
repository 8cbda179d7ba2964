import Mathlib.Tactic.Tauto
import RawProfile.Proofs.Registry.Unordered
import RawProfile.Proofs.Session.Decode
import RawProfile.Proofs.Session.Steps
import RawProfile.Proofs.Transport.Lockstep

/-!
# Dumps do not depend on the order of registration

Two sessions that made the same registrations, in any order and any number of times, have the same
spans and the same gate, and dump the same file: `writeFile_enterAll`.
-/

namespace RawProfile

/-- The gate after a registration: that of a record arms it. -/
def Entry.arm (g : Gate) : Entry → Gate
  | .record _ => g.arm.2
  | .names _ => g

namespace Session

def enter (s : Session) : Entry → Session
  | .record site => (s.registerData site).value.2
  | .names blob => (s.registerNames blob.start blob.length).value

def enterAll (s : Session) (es : List Entry) : Session := es.foldl enter s

theorem enter_eq (s : Session) (e : Entry) :
    s.enter e = { s with registry := s.registry.enter e, gate := e.arm s.gate } := by
  cases e with
  | record site => exact congrArg Prod.snd (s.value_registerData site)
  | names blob => rfl

/-- Registrations act on the registry and on the gate apart from each other. -/
theorem enterAll_eq (s : Session) (es : List Entry) :
    s.enterAll es = { s with
      registry := s.registry.enterAll es
      gate := es.foldl Entry.arm s.gate } := by
  induction es generalizing s with
  | nil => rfl
  | cons e es ih =>
    rw [enterAll, List.foldl_cons, ← enterAll, ih, enter_eq]
    rfl

theorem gate_enterAll_eq (s : Session) {xs ys : List Entry} (h : ∀ e, e ∈ xs ↔ e ∈ ys) :
    (s.enterAll xs).gate = (s.enterAll ys).gate := by
  have harm : ∀ g : Gate, g.arm.2.arm.2 = g.arm.2 := fun g => by cases g <;> rfl
  rw [enterAll_eq, enterAll_eq]
  refine foldl_eq_of_mem_iff (fun g e e' => ?_) (fun g e => ?_) h s.gate
  · cases e <;> cases e' <;> rfl
  · cases e with
    | record site => exact harm g
    | names blob => rfl

theorem lockstep_writeFile {σ τ : Type} [Transport σ] [Transport τ] {R : σ → τ → Prop}
    (h : Bisimulation R) {s s' : Session} (hwidth : s.width = s'.width)
    (hsize : s.registry.recordSize = s'.registry.recordSize)
    (hextents : s.registry.extents = s'.registry.extents) (image : MemoryImage) :
    Run.Lockstep R (s.writeFile image) (s'.writeFile image) := by
  have hplan : (s.dump image).plan = (s'.dump image).plan := by
    unfold dump
    rw [hwidth]
    exact Dump.plan_congr { s'.dump image with registry := s'.registry } hsize hextents
  exact Dump.lockstep_writeTo h (congrArg Logged.value hplan) defaultFileName

/-- Sessions that made the same registrations, whatever their order and however often, have the same
spans and gate and dump the same file. -/
theorem writeFile_enterAll (s : Session) (xs ys : List Entry) (h : ∀ e, e ∈ xs ↔ e ∈ ys) :
    (s.enterAll xs).registry.extents = (s.enterAll ys).registry.extents ∧
    (s.enterAll xs).gate = (s.enterAll ys).gate ∧
    ∀ {σ τ : Type} [Transport σ] [Transport τ] (image : MemoryImage) (t : σ) (t' : τ),
      Alike t t' →
      ((s.enterAll xs).writeFile image t).value = ((s.enterAll ys).writeFile image t').value ∧
      ((s.enterAll xs).writeFile image t).calls =
        ((s.enterAll ys).writeFile image t').calls := by
  have huncounted : (s.enterAll xs).registry.uncounted = (s.enterAll ys).registry.uncounted := by
    rw [enterAll_eq, enterAll_eq]
    exact s.registry.uncounted_enterAll_eq h
  have hextents : (s.enterAll xs).registry.extents = (s.enterAll ys).registry.extents := by
    rw [← Registry.extents_uncounted, huncounted, Registry.extents_uncounted]
  have hsize : (s.enterAll xs).registry.recordSize = (s.enterAll ys).registry.recordSize := by
    rw [← Registry.recordSize_uncounted, huncounted, Registry.recordSize_uncounted]
  have hwidth : (s.enterAll xs).width = (s.enterAll ys).width := by
    rw [enterAll_eq, enterAll_eq]
  refine ⟨hextents, s.gate_enterAll_eq h, ?_⟩
  rintro σ τ _ _ image t t' ⟨R, hR, ht⟩
  obtain ⟨hvalue, hcalls, -⟩ := lockstep_writeFile hR hwidth hsize hextents image t t' ht
  exact ⟨hvalue, hcalls⟩

/-- Two functions, of which one has no counters, and names that reach past the top of the address
space, some of them without bytes. -/
def startUp : List Entry :=
  [.record ⟨0x1000, 0x1000, 2⟩, .names ⟨0xfffffffffffffffb, 0x20⟩,
    .record ⟨0x1040, 0xfc8, 0⟩, .names ⟨0xfffffffffffffffd, 0⟩]

/-- The same registrations by two units of a program, the second of which makes some again. -/
def startUpTwice : List Entry :=
  [.names ⟨0xfffffffffffffffd, 0⟩, .record ⟨0x1040, 0xfc8, 0⟩, .record ⟨0x1000, 0x1000, 2⟩,
    .record ⟨0x1040, 0xfc8, 0⟩, .names ⟨0xfffffffffffffffb, 0x20⟩, .names ⟨0xfffffffffffffffd, 0⟩]

def startUpMemory : SparseMemory where
  regions := [⟨0x1000, zeroBytes 128⟩, ⟨0x2000, wordsBytes [3, 5]⟩,
    ⟨0xfffffffffffffffb, "main".toUTF8⟩]
  spaced := ⟨by decide +kernel, by decide +kernel⟩

theorem writeFile_enterAll_startUp :
    let s := (ofWidth .bits64).withSentinel 0x10
    let image : MemoryImage := .sparse startUpMemory
    let t : ScriptedTransport := {}
    (∀ e, e ∈ startUp ↔ e ∈ startUpTwice) ∧
    (s.enterAll startUp).registry.extents = (s.enterAll startUpTwice).registry.extents ∧
    ∃ summary : Summary, summary.bytesWritten = 264 ∧
      ((s.enterAll startUp).writeFile image t).value = .ok summary ∧
      ((s.enterAll startUpTwice).writeFile image t).value = .ok summary ∧
      ((s.enterAll startUp).writeFile image t).calls =
        ((s.enterAll startUpTwice).writeFile image t).calls := by
  intro s image t
  have h : ∀ e, e ∈ startUp ↔ e ∈ startUpTwice := by
    intro e
    simp only [startUp, startUpTwice, List.mem_cons, List.not_mem_nil, or_false]
    tauto
  obtain ⟨hextents, -, hfile⟩ := writeFile_enterAll s startUp startUpTwice h
  obtain ⟨hvalue, hcalls⟩ := hfile image t t (.refl t)
  have hlength : ((s.enterAll startUp).writeFile image t).value.map Summary.bytesWritten =
      .ok 264 := by decide +kernel
  cases hwritten : ((s.enterAll startUp).writeFile image t).value with
  | error e =>
    rw [hwritten] at hlength
    cases hlength
  | ok summary =>
    rw [hwritten] at hlength hvalue
    exact ⟨h, hextents, summary, Except.ok.inj hlength, rfl, hvalue.symm, hcalls⟩

end Session

end RawProfile

import RawProfile.Proofs.Dump.Acceptance
import RawProfile.Proofs.Dump.File
import RawProfile.Proofs.Transport.Stores

/-!
# What a dump leaves behind

The stores after a dump, for every earlier state of them. A dump that goes through leaves its file
under the name and nothing else changed; one that is cut short leaves the start of the file
(`Truncates`), and the next dump makes up for it; one without a plan, or that cannot open its file,
leaves every file as it was. `stores_writeTo` puts these together.
-/

namespace RawProfile

def Truncates (content file : ByteArray) : Prop :=
  ∃ missing, missing.size ≠ 0 ∧ content ++ missing = file

namespace Dump

section Any

variable {σ : Type} [Transport σ] {d : Dump} {p : Plan} {fileName : String} {t t' opened : σ}
  {handle : Handle}

/-- What came of a file that was opened, by the writes that were made. -/
inductive Came (p : Plan) (result : Except DumpError Summary) : List Sent → Prop where
  | whole (sent : List Sent) (summary : Summary) : sent.map Sent.chunk = p.writes →
      (∀ s ∈ sent, s.Whole) → result = .ok summary → Came p result sent
  | short (sent : List Sent) (last : Sent) (rest : List (Nat × ByteArray)) (e : ShortWrite) :
      sent.map Sent.chunk ++ last.chunk :: rest = p.writes → (∀ s ∈ sent, s.Whole) →
      last.taken < last.bytes.size → result = .error (.shortWrite e) →
      Came p result (sent ++ [last])

theorem served_file {calls : List Call}
    (h : Served t (.openFile fileName (.ok handle) :: calls ++ [.close handle]) t')
    (hopen : (Call.openFile fileName (.ok handle)).Serves t opened) :
    ∃ written, Served opened calls written ∧
      (Call.close handle).Serves written t' := by
  obtain ⟨written, ⟨opened', hopen', hwrites⟩, _, hclose, rfl⟩ := Served.append_iff.1 h
  obtain ⟨-, rfl⟩ := Prod.mk.inj (Eq.trans (Eq.symm hopen) hopen')
  exact ⟨written, hwrites, hclose⟩

theorem came_of_opened (hplan : d.plan.value = .ok p)
    (hopen : (Call.openFile fileName (.ok handle)).Serves t opened) :
    ∃ past written, Served opened (past.map (·.call handle)) written ∧
      (Call.close handle).Serves written (d.writeTo fileName t).transport ∧
      Came p (d.writeTo fileName t).value.1 past := by
  have hserved := served_writeTo d fileName t
  have hanswer : (Transport.openFile t fileName).value.1 = .ok handle := congrArg Prod.fst hopen
  rcases Ending.describes_of_opened hplan hanswer with hending | hending
  · obtain ⟨_, _, sent, hplan', hanswer', hsent, hwhole, hvalue, hcalls⟩ := hending
    cases hplan.symm.trans hplan'
    cases hanswer.symm.trans hanswer'
    rw [hcalls] at hserved
    obtain ⟨written, hwrites, hclose⟩ := served_file hserved hopen
    exact ⟨sent, written, hwrites, hclose, .whole sent _ hsent hwhole (congrArg Prod.fst hvalue)⟩
  · obtain ⟨_, _, sent, last, rest, hplan', hanswer', hsent, hwhole, hshort, hvalue, hcalls⟩ :=
      hending
    cases hplan.symm.trans hplan'
    cases hanswer.symm.trans hanswer'
    rw [hcalls] at hserved
    obtain ⟨written, hwrites, hclose⟩ := served_file hserved hopen
    exact ⟨sent ++ [last], written, hwrites, hclose,
      .short sent last rest _ hsent hwhole hshort (congrArg Prod.fst hvalue)⟩

/-- What each write carries on holds when the file is closed. -/
theorem written_of_opened {P : List Sent → σ → Prop} (hplan : d.plan.value = .ok p)
    (hopen : (Call.openFile fileName (.ok handle)).Serves t opened) (hstart : P [] opened)
    (hwrite : ∀ past s t t', P past t → (s.call handle).Serves t t' → P (past ++ [s]) t') :
    ∃ past written, P past written ∧
      (Call.close handle).Serves written (d.writeTo fileName t).transport ∧
      Came p (d.writeTo fileName t).value.1 past := by
  obtain ⟨past, written, hwrites, hclose, hcame⟩ := came_of_opened hplan hopen
  exact ⟨past, written, hwrites.writes hwrite hstart, hclose, hcame⟩

/-- If the file cannot be opened, the transport sees no more than the attempt. -/
theorem transport_of_unopened {e : OpenError}
    (hopen : (Transport.openFile t fileName).value = (.error e, opened)) :
    (d.writeTo fileName t).transport = t ∨ (d.writeTo fileName t).transport = opened := by
  have hserved := served_writeTo d fileName t
  cases hplan : d.plan.value with
  | error e' => exact .inl (writeTo_unplanned hplan).2.1
  | ok p =>
    rw [(writeTo_planned hplan fileName t).2,
      (send_unopened (congrArg Prod.fst hopen)).2] at hserved
    obtain ⟨opened', hopen', hend⟩ := hserved
    obtain ⟨-, rfl⟩ := Prod.mk.inj (hopen.symm.trans hopen')
    exact .inr hend

/-! ## What is kept of a file -/

variable {past : List Sent}

theorem kept_of_whole_writes (hp : d.Plans p) (hsent : past.map Sent.chunk = p.writes)
    (hwhole : ∀ s ∈ past, s.Whole) : kept past = p.file := by
  rw [kept_of_whole hwhole, ← hp.joined_writes_eq, ← hsent, List.map_map]
  rfl

theorem truncates_of_short_write {sent : List Sent} {last : Sent} {rest : List (Nat × ByteArray)}
    (hp : d.Plans p) (hsent : sent.map Sent.chunk ++ last.chunk :: rest = p.writes)
    (hwhole : ∀ s ∈ sent, s.Whole) (hshort : last.taken < last.bytes.size) :
    Truncates (kept (sent ++ [last])) p.file := by
  refine ⟨last.bytes.extract last.taken last.bytes.size ++ joined (rest.map (·.2)), ?_, ?_⟩
  · rw [ByteArray.size_append, ByteArray.size_extract]
    omega
  · have hlast : last.kept ++ last.bytes.extract last.taken last.bytes.size = last.bytes := by
      rw [Sent.kept, ← ByteArray.extract_eq_extract_append_extract _ (Nat.zero_le _)
        (Nat.le_of_lt hshort), ByteArray.extract_zero_size]
    calc kept (sent ++ [last]) ++ (last.bytes.extract last.taken last.bytes.size ++
          joined (rest.map (·.2)))
        = joined (sent.map Sent.bytes) ++ (last.kept ++
            last.bytes.extract last.taken last.bytes.size ++ joined (rest.map (·.2))) := by
          rw [kept_concat, kept_of_whole hwhole, ByteArray.append_assoc, ByteArray.append_assoc]
      _ = joined ((sent.map Sent.chunk ++ last.chunk :: rest).map (·.2)) := by
          rw [hlast, List.map_append, joined_append, List.map_map]
          rfl
      _ = p.file := by rw [hsent, hp.joined_writes_eq]

end Any

/-! ## Stores in memory -/

section Memory

/-- The dump of a plan to a store in memory succeeds, and leaves its file there. -/
def StoresInMemory (d : Dump) (p : Plan) (name : String) (s : MemoryStore) : Prop :=
  (∃ summary, (d.writeTo name s).value.1 = .ok summary) ∧
    s.Replaces name p.file (d.writeTo name s).transport

variable {d : Dump} {p : Plan} {s : MemoryStore} {i : Nat}

theorem exists_writing_memory (hplan : d.plan.value = .ok p) (hopens : s.failOpen = false)
    (name : String) : ∃ past written, s.Writing name past written ∧
      written.Later (d.writeTo name s).transport ∧
      s.Replaces name (kept past) (d.writeTo name s).transport ∧
      Came p (d.writeTo name s).value.1 past := by
  obtain ⟨opened, hopen, hstart⟩ := MemoryStore.exists_opened hopens name
  obtain ⟨past, written, hwriting, hclose, hcame⟩ := written_of_opened (P := s.Writing name) hplan
    hopen hstart fun _ _ _ _ => MemoryStore.Writing.write
  exact ⟨past, written, hwriting, MemoryStore.later_of_serves hclose, hwriting.close hclose, hcame⟩

theorem stores_memory (hplan : d.plan.value = .ok p) (hs : s.Sound p.writes.length)
    (name : String) : d.StoresInMemory p name s := by
  have hp := plan_eq_ok_iff.1 hplan
  obtain ⟨past, written, hwriting, -, hreplaces, hcame⟩ :=
    exists_writing_memory hplan hs.opens name
  cases hcame with
  | whole _ summary hsent hwhole hvalue =>
    rw [kept_of_whole_writes hp hsent hwhole] at hreplaces
    exact ⟨⟨summary, hvalue⟩, hreplaces⟩
  | short sent last rest e hsent hwhole hshort hvalue =>
    have htaken := hwriting.taken sent.length last (by simp)
    have hfault := MemoryStore.shortWriteAt_of_takenAt_lt (htaken ▸ hshort)
    have hdue : sent.length < p.writes.length := by
      rw [← hsent]
      simp
    exact absurd hfault (hs.takes sent.length hdue)

/-- With a fault in one of the writes, the start of the file is stored, and the fault is past. -/
theorem truncates_memory (hplan : d.plan.value = .ok p) (hopens : s.failOpen = false)
    (hi : i < p.writes.length) (hfault : s.shortWriteAt = some (s.writeCalls + i)) (name : String) :
    (∃ e, (d.writeTo name s).value.1 = .error (.shortWrite e)) ∧
      (∃ content, Truncates content p.file ∧
        s.Replaces name content (d.writeTo name s).transport) ∧
      ∀ n, (d.writeTo name s).transport.Sound n := by
  have hp := plan_eq_ok_iff.1 hplan
  obtain ⟨past, written, hwriting, hlater, hreplaces, hcame⟩ :=
    exists_writing_memory hplan hopens name
  cases hcame with
  | whole _ summary hsent hwhole hvalue =>
    have hlength : i < past.length := by
      rw [← List.length_map (f := Sent.chunk), hsent]
      exact hi
    have hwrite := List.getElem_mem hlength
    have htaken := hwriting.taken i past[i] (List.getElem?_eq_getElem hlength)
    rw [MemoryStore.takenAt, if_pos hfault] at htaken
    have hnonempty := Plan.size_of_mem_writes (hsent ▸ List.mem_map_of_mem hwrite)
    have hhalf : past[i].bytes.size ≤ past[i].taken := hwhole _ hwrite
    change past[i].bytes.size ≠ 0 at hnonempty
    omega
  | short sent last rest e hsent hwhole hshort hvalue =>
    have hend := MemoryStore.later_of_served (served_writeTo d name s)
    have htaken := hwriting.taken sent.length last (by simp)
    have hdue := MemoryStore.shortWriteAt_of_takenAt_lt (htaken ▸ hshort)
    refine ⟨⟨e, hvalue⟩, ⟨_, truncates_of_short_write hp hsent hwhole hshort, hreplaces⟩,
      fun n => ⟨hend.failOpen.trans hopens, fun j _ h => ?_⟩⟩
    have hcalls := hlater.writeCalls
    rw [hwriting.writeCalls, List.length_append, List.length_singleton] at hcalls
    rw [hend.shortWriteAt, hdue, Option.some.injEq] at h
    omega

end Memory

/-! ## Directories -/

/-- The dump of a plan below a directory succeeds, and leaves its file there. -/
def StoresInDirectory (d : Dump) (p : Plan) (name : String) (t : DirectoryOutput) (l : Location) :
    Prop :=
  (∃ summary, (d.writeTo name t).value.1 = .ok summary) ∧
    t.Replaces name l p.file (d.writeTo name t).transport

theorem stores_directory {d : Dump} {p : Plan} {t : DirectoryOutput} {name : String}
    {l : Location} (hplan : d.plan.value = .ok p) (hl : t.Creatable name l) :
    d.StoresInDirectory p name t l := by
  have hp := plan_eq_ok_iff.1 hplan
  obtain ⟨opened, hopen, hstart⟩ := DirectoryOutput.exists_opened hl
  obtain ⟨past, written, hwriting, hclose, hcame⟩ := written_of_opened (P := t.Writing l) hplan
    hopen hstart fun _ _ _ _ => DirectoryOutput.Writing.write
  have hreplaces := hwriting.close hl hclose
  cases hcame with
  | whole _ summary hsent hwhole hvalue =>
    rw [kept_of_whole_writes hp hsent hwhole] at hreplaces
    exact ⟨⟨summary, hvalue⟩, hreplaces⟩
  | short sent last rest e hsent hwhole hshort hvalue =>
    have htaken := hwriting.taken last (List.mem_append_right _ List.mem_cons_self)
    omega

/-- What is left in a store after a dump, whatever was in it before. A file that can be stored is
stored, in memory as below a directory. In a write cut short, its start is, and the store is as good
as ever for what is dumped later. Without a plan or an open file, no file changes. -/
theorem stores_writeTo (d : Dump) (name : String) :
    (∀ p, d.plan.value = .ok p →
      (∀ s : MemoryStore, s.Sound p.writes.length → d.StoresInMemory p name s) ∧
      (∀ t l, DirectoryOutput.Creatable t name l → d.StoresInDirectory p name t l) ∧
      (∀ (s : MemoryStore) (t : DirectoryOutput) l, s.Sound p.writes.length → t.Creatable name l →
        (d.writeTo name s).transport.file? name = (d.writeTo name t).transport.stored? name) ∧
      (∀ (s : MemoryStore) i, s.failOpen = false → i < p.writes.length →
        s.shortWriteAt = some (s.writeCalls + i) →
          (∃ e, (d.writeTo name s).value.1 = .error (.shortWrite e)) ∧
          (∃ content, Truncates content p.file ∧
            s.Replaces name content (d.writeTo name s).transport) ∧
          ∀ calls later, Served (d.writeTo name s).transport calls later →
            ∀ (d' : Dump) p' name', d'.plan.value = .ok p' → d'.StoresInMemory p' name' later)) ∧
    (∀ e, d.plan.value = .error e → (∀ s : MemoryStore, (d.writeTo name s).transport = s) ∧
      ∀ t : DirectoryOutput, (d.writeTo name t).transport = t) ∧
    (∀ (s : MemoryStore) e, (Transport.openFile s name).value.1 = .error e →
      (d.writeTo name s).transport.files = s.files) ∧
    (∀ (t : DirectoryOutput) e, (Transport.openFile t name).value.1 = .error e →
      (d.writeTo name t).transport = t) := by
  refine ⟨fun p hplan => ⟨fun s hs => stores_memory hplan hs name,
    fun t l hl => stores_directory hplan hl, fun s t l hs hl => ?_,
    fun s i hopens hi hfault => ?_⟩, fun e hplan => ?_, fun s e hopen => ?_, fun t e hopen => ?_⟩
  · rw [(stores_memory hplan hs name).2.file, (stores_directory hplan hl).2.stored?]
  · obtain ⟨hvalue, hcontent, hsound⟩ := truncates_memory hplan hopens hi hfault name
    refine ⟨hvalue, hcontent, fun calls later hserved d' p' name' hplan' => ?_⟩
    have hlater := MemoryStore.later_of_served hserved
    exact stores_memory hplan' (hlater.sound hsound _) name'
  · exact ⟨fun s => (writeTo_unplanned hplan).2.1, fun t => (writeTo_unplanned hplan).2.1⟩
  · have hanswer : (Transport.openFile s name).value =
        (.error e, (Transport.openFile s name).value.2) := Prod.ext hopen rfl
    rcases transport_of_unopened hanswer with h | h
    · rw [h]
    · rw [h]
      exact MemoryStore.files_of_unopened hanswer
  · have hanswer : (Transport.openFile t name).value =
        (.error e, (Transport.openFile t name).value.2) := Prod.ext hopen rfl
    rcases transport_of_unopened hanswer with h | h
    · exact h
    · rw [h]
      exact DirectoryOutput.eq_of_unopened hanswer

/-- A longer file of the same name is replaced, and a fault in the third write leaves the header and
the records. -/
theorem stores_writeTo_small :
    let full : MemoryStore := { files := [("other", .empty), ("small", zeroBytes 200)] }
    let faulty : MemoryStore := { full with handles := [none], shortWriteAt := some 2 }
    let disk : DirectoryOutput :=
      { fileSystem := { nodes := [(["small"], .file (zeroBytes 200))] }, directory := "/" }
    ∃ p, small.plan.value = .ok p ∧ small.StoresInMemory p "small" full ∧
      small.StoresInDirectory p "small" disk ["small"] ∧
      ∃ content, Truncates content p.file ∧
        faulty.Replaces "small" content (small.writeTo "small" faulty).transport := by
  intro full faulty disk
  have hwrites : small.plan.value.map (·.writes.length) = .ok 5 := by decide +kernel
  obtain ⟨hplanned, -⟩ := stores_writeTo small "small"
  cases hplan : small.plan.value with
  | error e =>
    rw [hplan] at hwrites
    cases hwrites
  | ok p =>
    obtain ⟨hmemory, hdirectory, -, hshort⟩ := hplanned p hplan
    rw [hplan] at hwrites
    have hfive : p.writes.length = 5 := Except.ok.inj hwrites
    have hsound : full.Sound p.writes.length := by
      refine ⟨rfl, fun i _ h => ?_⟩
      cases h
    have hroot : disk.Creatable "small" ["small"] := by
      refine ⟨by decide +kernel, fun device h => ?_⟩
      cases h
    exact ⟨p, rfl, hmemory full hsound, hdirectory disk ["small"] hroot,
      (hshort faulty 2 rfl (by omega) rfl).2.1⟩

end Dump

end RawProfile

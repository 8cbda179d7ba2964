import RawProfile.Proofs.FileSystem.Target
import RawProfile.Proofs.Transport.Trace
import RawProfile.Transport.Directory
import RawProfile.Transport.MemoryStore

/-!
# What a store keeps

A file is opened, written and closed, in a store in memory or below a directory. `Writing` says how
the store stands in the middle of that, compared to the store before the file was opened: the file
holds what was kept of the writes so far (`kept`), and nothing else has changed. Opening starts it,
a write carries it on, and closing turns it into `Replaces`: the file has got a new content, whatever
was in it, and the rest is as it was.
-/

namespace RawProfile

/-! ## What is kept of writes -/

/-- The bytes that the transport keeps of a string. -/
def Sent.kept (s : Sent) : ByteArray := s.bytes.extract 0 s.taken

def kept (sent : List Sent) : ByteArray := joined (sent.map Sent.kept)

theorem kept_concat (past : List Sent) (s : Sent) : kept (past ++ [s]) = kept past ++ s.kept := by
  rw [kept, List.map_append, joined_append]
  exact congrArg _ ByteArray.append_empty

theorem Sent.Whole.kept_eq {s : Sent} (h : s.Whole) : s.kept = s.bytes := by
  have hrest : s.bytes.extract s.bytes.size s.taken = .empty :=
    ByteArray.extract_eq_empty_iff.2 (Nat.min_le_right ..)
  rw [Sent.kept, ByteArray.extract_eq_extract_append_extract s.bytes.size (Nat.zero_le _) h, hrest,
    ByteArray.extract_zero_size, ByteArray.append_empty]

/-- Of strings that were taken whole, every byte is kept. -/
theorem kept_of_whole {sent : List Sent} (h : ∀ s ∈ sent, s.Whole) :
    kept sent = joined (sent.map Sent.bytes) := by
  rw [kept, List.map_congr_left fun s hs => (h s hs).kept_eq]

/-! ## Stores in memory -/

namespace MemoryStore

/-- The file has got a new content and is closed; the other files and handles are as they were. -/
structure Replaces (s : MemoryStore) (name : String) (content : ByteArray) (s' : MemoryStore) :
    Prop where
  file : s'.file? name = some content
  others : ∀ other, other ≠ name → s'.file? other = s.file? other
  handles : s'.handles = s.handles ++ [none]

/-- The number of bytes taken of the write that is the `i`-th from here. -/
def takenAt (s : MemoryStore) (i length : Nat) : Nat :=
  if s.shortWriteAt = some (s.writeCalls + i) then length / 2 else length

/-- The store in the middle of a file. -/
structure Writing (s : MemoryStore) (name : String) (past : List Sent) (s' : MemoryStore) :
    Prop where
  file : s'.file? name = some (kept past)
  others : ∀ other, other ≠ name → s'.file? other = s.file? other
  handles : s'.handles = s.handles ++ [some name]
  writeCalls : s'.writeCalls = s.writeCalls + past.length
  shortWriteAt : s'.shortWriteAt = s.shortWriteAt
  taken : ∀ i x, past[i]? = some x → x.taken = s.takenAt i x.bytes.size

variable {s s' s'' : MemoryStore} {name : String} {past : List Sent} {handle : Handle}

theorem shortWriteAt_of_takenAt_lt {i length : Nat} (h : s.takenAt i length < length) :
    s.shortWriteAt = some (s.writeCalls + i) := by
  unfold takenAt at h
  split at h
  · assumption
  · omega

theorem exists_opened (h : s.failOpen = false) (name : String) :
    ∃ opened, (Call.openFile name (.ok ⟨s.handles.length⟩)).Serves s opened ∧
      s.Writing name [] opened := by
  have hopen : s.openFile name = (.ok ⟨s.handles.length⟩, { s with
      openCalls := s.openCalls + 1
      files := Bindings.put name .empty s.files
      handles := s.handles ++ [some name] }) := by
    rw [openFile, if_neg (by simp [h])]
  refine ⟨_, hopen, Bindings.get?_put_self ..,
    fun other hother => Bindings.get?_put_of_ne hother .., rfl, rfl, rfl, fun i x hx => ?_⟩
  cases hx

theorem files_of_unopened {e : OpenError} (h : s.openFile name = (.error e, s')) :
    s'.files = s.files := by
  rw [openFile] at h
  split at h
  · cases h
    rfl
  · cases h

namespace Writing

theorem nameOf? (h : s.Writing name past s') : s'.nameOf? ⟨s.handles.length⟩ = some name := by
  simp [MemoryStore.nameOf?, h.handles]

/-- A write adds to the file what is taken of it. -/
theorem write {x : Sent} (h : s.Writing name past s')
    (hx : (x.call ⟨s.handles.length⟩).Serves s' s'') : s.Writing name (past ++ [x]) s'' := by
  change s'.write ⟨s.handles.length⟩ x.bytes = (x.taken, s'') at hx
  have htaken : s'.taken x.bytes.size = s.takenAt past.length x.bytes.size := by
    rw [MemoryStore.taken, takenAt, h.shortWriteAt, h.writeCalls]
  rw [MemoryStore.write, h.nameOf?] at hx
  obtain ⟨hanswer, rfl⟩ := Prod.mk.inj hx
  refine ⟨?_, fun other hother => ?_, h.handles, ?_, h.shortWriteAt, fun i y hy => ?_⟩
  · rw [kept_concat, Sent.kept, ← hanswer, file?, Bindings.get?_modify_self, ← file?, h.file]
    rfl
  · rw [← h.others other hother]
    exact Bindings.get?_modify_of_ne hother ..
  · rw [List.length_append, ← Nat.add_assoc, ← h.writeCalls]
    exact Array.size_push ..
  · rw [List.getElem?_append] at hy
    split at hy
    · exact h.taken i y hy
    · next hi =>
      rw [List.getElem?_singleton] at hy
      split at hy
      · next hlast =>
        cases hy
        rw [← hanswer, htaken, show i = past.length by omega]
      · cases hy

theorem close (h : s.Writing name past s')
    (hclose : (Call.close ⟨s.handles.length⟩).Serves s' s'') :
    s.Replaces name (kept past) s'' := by
  change s'.close ⟨s.handles.length⟩ = s'' at hclose
  subst hclose
  refine ⟨h.file, h.others, ?_⟩
  rw [MemoryStore.close, h.handles]
  simp

end Writing

/-- No fault comes up in the next so many writes, nor in opening a file. -/
structure Sound (s : MemoryStore) (writes : Nat) : Prop where
  opens : s.failOpen = false
  takes : ∀ i, i < writes → s.shortWriteAt ≠ some (s.writeCalls + i)

/-- Calls switch no fault on or off, they only bring it nearer. -/
structure Later (s s' : MemoryStore) : Prop where
  failOpen : s'.failOpen = s.failOpen
  shortWriteAt : s'.shortWriteAt = s.shortWriteAt
  writeCalls : s.writeCalls ≤ s'.writeCalls

theorem later_of_serves {call : Call} (h : call.Serves s s') : s.Later s' := by
  cases call with
  | openFile path answer =>
    change s.openFile path = (answer, s') at h
    rw [openFile] at h
    split at h <;> cases h <;> exact ⟨rfl, rfl, Nat.le_refl _⟩
  | write handle bytes answer =>
    change s.write handle bytes = (answer, s') at h
    have hcalls : s.writeCalls ≤ (s.writeLengths.push bytes.size).size := by
      rw [Array.size_push]
      exact Nat.le_succ _
    rw [MemoryStore.write] at h
    split at h <;> cases h <;> exact ⟨rfl, rfl, hcalls⟩
  | close handle =>
    change s.close handle = s' at h
    cases h
    exact ⟨rfl, rfl, Nat.le_refl _⟩

theorem later_of_served {calls : List Call} (h : Served s calls s') : s.Later s' := by
  induction calls generalizing s with
  | nil =>
    cases h
    exact ⟨rfl, rfl, Nat.le_refl _⟩
  | cons call calls ih =>
    obtain ⟨next, hfirst, hrest⟩ := h
    have hnext := later_of_serves hfirst
    have hlast := ih hrest
    exact ⟨hlast.failOpen.trans hnext.failOpen, hlast.shortWriteAt.trans hnext.shortWriteAt,
      Nat.le_trans hnext.writeCalls hlast.writeCalls⟩

/-- A store that has left its faults behind stays so. -/
theorem Later.sound (h : s.Later s') (hs : ∀ n, s.Sound n) (n : Nat) : s'.Sound n := by
  refine ⟨h.failOpen.trans (hs 0).opens, fun i _ hfault => ?_⟩
  obtain ⟨k, hk⟩ := Nat.exists_eq_add_of_le h.writeCalls
  rw [h.shortWriteAt, hk, Nat.add_assoc] at hfault
  exact (hs (k + i + 1)).takes (k + i) (Nat.lt_succ_self _) hfault

end MemoryStore

/-! ## Files in a directory -/

namespace DirectoryOutput

def stored? (d : DirectoryOutput) (name : String) : Option ByteArray :=
  match d.fileSystem.target (PathText.join d.directory name) with
  | .ok l => d.fileSystem.content? l
  | .error _ => none

/-- A plain file can be created or emptied under the name, and this is where. -/
structure Creatable (d : DirectoryOutput) (name : String) (l : Location) : Prop where
  target : d.fileSystem.target (PathText.join d.directory name) = .ok l
  plain : ∀ device, d.fileSystem.find? l ≠ some (.device device)

/-- The file has got a new content and is closed; the other places and handles are as they were. -/
structure Replaces (d : DirectoryOutput) (name : String) (l : Location) (content : ByteArray)
    (d' : DirectoryOutput) : Prop where
  file : d'.fileSystem.find? l = some (.file content)
  others : ∀ other, other ≠ l → d'.fileSystem.find? other = d.fileSystem.find? other
  files : d'.files = d.files ++ [none]
  creatable : d'.Creatable name l

theorem Replaces.stored? {d d' : DirectoryOutput} {name : String} {l : Location}
    {content : ByteArray} (h : d.Replaces name l content d') : d'.stored? name = some content := by
  rw [DirectoryOutput.stored?, h.creatable.target]
  change d'.fileSystem.content? l = _
  rw [FileSystem.content?, h.file]

/-- The directory in the middle of a file. -/
structure Writing (d : DirectoryOutput) (l : Location) (past : List Sent) (d' : DirectoryOutput) :
    Prop where
  file : d'.fileSystem.find? l = some (.file (kept past))
  others : ∀ other, other ≠ l → d'.fileSystem.find? other = d.fileSystem.find? other
  workingDirectory : d'.fileSystem.workingDirectory = d.fileSystem.workingDirectory
  directory : d'.directory = d.directory
  files : d'.files = d.files ++ [some ⟨l, (kept past).size⟩]
  taken : ∀ x ∈ past, x.taken = x.bytes.size

variable {d d' d'' : DirectoryOutput} {name : String} {l : Location} {past : List Sent}
  {handle : Handle}

theorem exists_opened (hl : d.Creatable name l) :
    ∃ opened, (Call.openFile name (.ok ⟨d.files.length⟩)).Serves d opened ∧
      d.Writing l [] opened := by
  have hroot := FileSystem.target_ne_nil hl.target
  have hopen : d.fileSystem.openForWriting (PathText.join d.directory name) =
      .ok (⟨l, 0⟩, d.fileSystem.put l (.file .empty)) := by
    rw [FileSystem.openForWriting, hl.target]
    dsimp only [bind, Except.bind]
    split
    · next device hdevice => exact absurd hdevice (hl.plain device)
    · rfl
  have hserves : (d.openFile name).value = (.ok ⟨d.files.length⟩, { d with
      fileSystem := d.fileSystem.put l (.file .empty)
      files := d.files ++ [some ⟨l, 0⟩] }) := by
    rw [openFile, hopen]
  refine ⟨_, hserves, FileSystem.find?_put_self hroot _, fun other hother =>
    FileSystem.find?_put_of_ne hother _, rfl, rfl, rfl, fun x hx => ?_⟩
  cases hx

theorem eq_of_unopened {e : OpenError} (h : (d.openFile name).value = (.error e, d')) : d' = d := by
  rw [openFile] at h
  split at h
  · cases h
    rfl
  · cases h

namespace Writing

theorem file? (h : d.Writing l past d') :
    d'.file? ⟨d.files.length⟩ = some ⟨l, (kept past).size⟩ := by
  simp [DirectoryOutput.file?, h.files]

theorem write {x : Sent} (h : d.Writing l past d')
    (hx : (x.call ⟨d.files.length⟩).Serves d' d'') : d.Writing l (past ++ [x]) d'' := by
  change (d'.write ⟨d.files.length⟩ x.bytes).value = (x.taken, d'') at hx
  rw [DirectoryOutput.write, h.file?] at hx
  dsimp only at hx
  split at hx
  · next hempty =>
    obtain ⟨htaken, rfl⟩ := Prod.mk.inj hx
    have hkept : kept (past ++ [x]) = kept past := by
      rw [kept_concat, Sent.kept, ← htaken, ByteArray.extract_same, ByteArray.append_empty]
    refine ⟨?_, h.others, h.workingDirectory, h.directory, ?_, ?_⟩
    · rw [hkept]
      exact h.file
    · rw [hkept]
      exact h.files
    · exact List.forall_mem_append.2
        ⟨h.taken, List.forall_mem_singleton.2 (htaken.symm.trans hempty.symm)⟩
  · next hempty =>
    have hrefusal : d'.fileSystem.refusal? ⟨l, (kept past).size⟩ = none := by
      rw [FileSystem.refusal?, h.file]
    rw [hrefusal] at hx
    obtain ⟨htaken, rfl⟩ := Prod.mk.inj hx
    have hkept : kept (past ++ [x]) = kept past ++ x.bytes := by
      rw [kept_concat, Sent.kept, ← htaken, ByteArray.extract_zero_size]
    refine ⟨?_, fun other hother => ?_, h.workingDirectory, h.directory, ?_, ?_⟩
    · rw [hkept]
      exact FileSystem.find?_write_self h.file x.bytes
    · rw [← h.others other hother]
      exact FileSystem.find?_write_of_ne hother ..
    · rw [hkept, ByteArray.size_append, h.files]
      simp [OpenFile.advance]
    · exact List.forall_mem_append.2 ⟨h.taken, List.forall_mem_singleton.2 htaken.symm⟩

theorem close (h : d.Writing l past d') (hl : d.Creatable name l)
    (hclose : (Call.close ⟨d.files.length⟩).Serves d' d'') :
    d.Replaces name l (kept past) d'' := by
  change d'.close ⟨d.files.length⟩ = d'' at hclose
  subst hclose
  have hsame : d.fileSystem.SameBut l d'.fileSystem :=
    ⟨h.others, h.workingDirectory, FileSystem.not_directory_of_target hl.target, _, h.file⟩
  refine ⟨h.file, h.others, ?_, ?_, fun device hdevice => ?_⟩
  · rw [DirectoryOutput.close, h.files]
    simp
  · change d'.fileSystem.target (PathText.join d'.directory name) = .ok l
    rw [h.directory]
    exact hsame.target hl.target
  · rw [DirectoryOutput.close, h.file] at hdevice
    cases hdevice

end Writing

end DirectoryOutput

end RawProfile

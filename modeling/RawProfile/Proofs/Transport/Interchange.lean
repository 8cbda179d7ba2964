import RawProfile.Proofs.FileSystem.Plain
import RawProfile.Proofs.Transport.Stores

/-!
# Memory and directory are interchangeable

The same calls are made of an empty store in memory and of a directory. `Matched` says how the two
stand to each other in between: under each name that was opened both have the same bytes, a handle
is open in both or in neither, and the handle that was opened last for a name stands at the end of
its file. Each call carries this on and gets the same answer (`Matched.perform`), as long as it does
not write through a handle whose name has been opened again (`Orderly`): the directory would then
write over the new bytes, and the memory after them.
-/

namespace RawProfile

/-! ## Runs of calls -/

namespace Request

def name? : Request → Option String
  | .openFile path => some path
  | .write .. => none
  | .close _ => none

/-- The names that are opened. Each gets its position in this list as its handle. -/
def opened (rs : List Request) : List String := rs.filterMap name?

/-- The name at a position does not come up again. -/
def Latest (names : List String) (i : Nat) : Prop :=
  ∀ name, names[i]? = some name → name ∉ names.drop (i + 1)

instance : DecidableRel Latest := fun names i =>
  match h : names[i]? with
  | none => .isTrue fun _ hname => nomatch h.symm.trans hname
  | some name => decidable_of_iff (name ∉ names.drop (i + 1))
      ⟨fun hlast _ hname => Option.some.inj (h.symm.trans hname) ▸ hlast, fun hlast => hlast name h⟩

/-- If the call writes, then through a handle whose name has not been opened again. -/
def WritesLatest (names : List String) : Request → Prop
  | .openFile _ => True
  | .write handle _ => Latest names handle.index
  | .close _ => True

instance : DecidableRel WritesLatest
  | _, .openFile _ => .isTrue trivial
  | names, .write handle _ => inferInstanceAs (Decidable (Latest names handle.index))
  | _, .close _ => .isTrue trivial

/-- No write goes through a handle after its name has been opened again. -/
def Orderly (rs : List Request) : Prop :=
  ∀ i, (h : i < rs.length) → WritesLatest (opened (rs.take i)) rs[i]

instance (rs : List Request) : Decidable (Orderly rs) :=
  inferInstanceAs (Decidable (∀ i, (h : i < rs.length) → _))

theorem opened_concat (rs : List Request) (r : Request) :
    opened (rs ++ [r]) = opened rs ++ r.name?.toList := by
  rw [opened, List.filterMap_append, ← opened]
  cases h : r.name? <;> simp [h]

variable {names : List String} {path : String} {i : Nat}

theorem Latest.of_concat (h : Latest (names ++ [path]) i) (hi : i < names.length) :
    Latest names i ∧ names[i]? ≠ some path := by
  have hdrop : (names ++ [path]).drop (i + 1) = names.drop (i + 1) ++ [path] :=
    List.drop_append_of_le_length hi
  have hlast : ∀ name, names[i]? = some name → name ∉ names.drop (i + 1) ∧ name ≠ path := by
    intro name hname
    have hsame : (names ++ [path])[i]? = names[i]? := List.getElem?_append_left hi
    rw [← hsame] at hname
    have hnot := h name hname
    rw [hdrop, List.mem_append, not_or, List.mem_singleton] at hnot
    exact hnot
  exact ⟨fun name hname => (hlast name hname).1, fun hpath => (hlast path hpath).2 rfl⟩

theorem Latest.le {j : Nat} {name : String} (h : Latest names i) (hi : names[i]? = some name)
    (hj : names[j]? = some name) : j ≤ i := by
  refine Nat.le_of_not_lt fun hij => h name hi ?_
  rw [List.mem_iff_getElem?]
  exact ⟨j - (i + 1), by rwa [List.getElem?_drop, Nat.add_sub_cancel' hij]⟩

/-- The first call that is still to be made writes through a handle of the latest opening. -/
theorem Orderly.writesLatest {past later : List Request} {r : Request}
    (h : Orderly (past ++ r :: later)) : WritesLatest (opened past) r := by
  have hat := h past.length (by simp)
  rwa [List.take_left, List.getElem_append_right (Nat.le_refl _),
    getElem_congr_idx (Nat.sub_self _)] at hat

def ofCall : Call → Request
  | .openFile path _ => .openFile path
  | .write handle bytes _ => .write handle bytes
  | .close handle => .close handle

theorem perform_of_serves {σ : Type} [Transport σ] {call : Call} {t t' : σ}
    (h : call.Serves t t') :
    ((ofCall call).perform t).calls = [call] ∧ ((ofCall call).perform t).transport = t' := by
  cases call with
  | openFile path answer =>
    have hanswer : (Transport.openFile t path).value = (answer, t') := h
    exact ⟨congrArg (fun a => [Call.openFile path a]) (congrArg Prod.fst hanswer),
      congrArg Prod.snd hanswer⟩
  | write handle bytes answer =>
    have hanswer : (Transport.write t handle bytes).value = (answer, t') := h
    exact ⟨congrArg (fun a => [Call.write handle bytes a]) (congrArg Prod.fst hanswer),
      congrArg Prod.snd hanswer⟩
  | close handle => exact ⟨rfl, h⟩

end Request

/-! ## Tables of handles -/

section Slots

variable {α : Type}

theorem join_getElem?_concat (slots : List (Option α)) (a : α) (i : Nat) :
    ((slots ++ [some a])[i]?).join = if i = slots.length then some a else (slots[i]?).join := by
  rcases Nat.lt_trichotomy i slots.length with hlt | rfl | hgt
  · rw [List.getElem?_append_left hlt, if_neg (Nat.ne_of_lt hlt)]
  · rw [List.getElem?_concat_length, if_pos rfl]
    rfl
  · rw [if_neg (Nat.ne_of_gt hgt), List.getElem?_eq_none (by simp; omega),
      List.getElem?_eq_none (Nat.le_of_lt hgt)]

theorem join_getElem?_set (slots : List (Option α)) (i : Nat) (slot : Option α) (j : Nat) :
    ((slots.set i slot)[j]?).join =
      if i = j ∧ i < slots.length then slot else (slots[j]?).join := by
  rw [List.getElem?_set]
  by_cases hij : i = j
  · subst hij
    by_cases hlt : i < slots.length
    · rw [if_pos rfl, if_pos hlt, if_pos ⟨rfl, hlt⟩]
      rfl
    · rw [if_pos rfl, if_neg hlt, if_neg fun h => hlt h.2, List.getElem?_eq_none (by omega)]
  · rw [if_neg hij, if_neg fun h => hij h.1]

end Slots

/-! ## Single calls of either store -/

namespace MemoryStore

variable {s : MemoryStore} {name : String} {handle : Handle}

theorem nameOf?_close (s : MemoryStore) (closed handle : Handle) :
    (s.close closed).nameOf? handle =
      if closed.index = handle.index ∧ closed.index < s.handles.length then none
      else s.nameOf? handle :=
  join_getElem?_set ..

/-- A write through a handle that is not open changes no file and no handle. -/
theorem write_of_closed (hname : s.nameOf? handle = none) (bytes : ByteArray) :
    s.write handle bytes = (0, { s with writeLengths := s.writeLengths.push bytes.size }) := by
  rw [write, hname]

theorem write_of_open (hfault : s.shortWriteAt = none) (hname : s.nameOf? handle = some name)
    (bytes : ByteArray) :
    s.write handle bytes = (bytes.size, { s with
      writeLengths := s.writeLengths.push bytes.size
      files := Bindings.modify name (· ++ bytes) s.files }) := by
  have htaken : s.taken bytes.size = bytes.size := by
    rw [taken, hfault, if_neg (Option.some_ne_none _).symm]
  rw [write, hname, htaken, ByteArray.extract_zero_size]

end MemoryStore

namespace DirectoryOutput

variable {d : DirectoryOutput} {l : Location} {handle : Handle} {content bytes : ByteArray}

theorem file?_close (d : DirectoryOutput) (closed handle : Handle) :
    (d.close closed).file? handle =
      if closed.index = handle.index ∧ closed.index < d.files.length then none
      else d.file? handle :=
  join_getElem?_set ..

/-- What a write through a handle at the end of a plain file leaves: a longer file, and the handle
at its end. -/
structure Appends (d : DirectoryOutput) (handle : Handle) (l : Location) (content : ByteArray)
    (d' : DirectoryOutput) : Prop where
  file : d'.fileSystem.find? l = some (.file content)
  sameBut : d.fileSystem.SameBut l d'.fileSystem
  directory : d'.directory = d.directory
  files : d'.files.length = d.files.length
  position : d'.file? handle = some ⟨l, content.size⟩
  others : ∀ other : Handle, other.index ≠ handle.index → d'.file? other = d.file? other

theorem write_of_open (hfile : d.file? handle = some ⟨l, content.size⟩)
    (hcontent : d.fileSystem.find? l = some (.file content)) (bytes : ByteArray) :
    ∃ d', (d.write handle bytes).value = (bytes.size, d') ∧
      d.Appends handle l (content ++ bytes) d' := by
  have hfree : d.fileSystem.find? l ≠ some .directory := by simp [hcontent]
  by_cases hempty : bytes.size = 0
  · have hbytes : content ++ bytes = content := by
      rw [ByteArray.size_eq_zero_iff.1 hempty, ByteArray.append_empty]
    have hwrite : (d.write handle bytes).value = (bytes.size, d) := by
      rw [write, hfile]
      dsimp only
      rw [if_pos hempty, hempty]
      rfl
    refine ⟨d, hwrite, ?_⟩
    rw [hbytes]
    exact ⟨hcontent, ⟨fun _ _ => rfl, rfl, hfree, _, hcontent⟩, rfl, rfl, hfile, fun _ _ => rfl⟩
  · have hrefusal : d.fileSystem.refusal? ⟨l, content.size⟩ = none := by
      rw [FileSystem.refusal?, hcontent]
    have hlt : handle.index < d.files.length := by
      refine Nat.lt_of_not_le fun hge => ?_
      rw [file?, List.getElem?_eq_none hge] at hfile
      cases hfile
    have hwrite : (d.write handle bytes).value = (bytes.size, { d with
        fileSystem := d.fileSystem.write ⟨l, content.size⟩ bytes
        files := d.files.set handle.index (some ⟨l, content.size + bytes.size⟩) }) := by
      rw [write, hfile]
      dsimp only
      rw [if_neg hempty, hrefusal]
      rfl
    have hwritten := FileSystem.find?_write_self hcontent bytes
    refine ⟨_, hwrite, hwritten,
      ⟨fun _ hother => FileSystem.find?_write_of_ne hother .., rfl, hfree, _, hwritten⟩, rfl,
      List.length_set, ?_, fun other hother => ?_⟩
    · rw [file?, join_getElem?_set, if_pos ⟨rfl, hlt⟩, ByteArray.size_append]
    · rw [file?, join_getElem?_set, if_neg fun h => hother h.1.symm, file?]

end DirectoryOutput

/-! ## Both stores side by side -/

/-- A plain file can be created or emptied under a name in a directory. -/
structure Room (fs : FileSystem) (directory : String) (l : Location) (name : String) : Prop where
  plain : PathText.Plain name
  length : (PathText.join directory name).utf8ByteSize ≤ PathText.maxPath
  notDirectory : fs.find? (l ++ [name]) ≠ some .directory
  notDevice : ∀ device, fs.find? (l ++ [name]) ≠ some (.device device)

/-- A handle is open in neither store, or in both for one name. As long as the name is not opened
again, it stands at the end of the file in the directory. -/
def SameHandle (l : Location) (names : List String) (s : MemoryStore) (d : DirectoryOutput)
    (handle : Handle) : Prop :=
  (s.nameOf? handle = none ∧ d.file? handle = none) ∨
    ∃ name offset, names[handle.index]? = some name ∧ s.nameOf? handle = some name ∧
      d.file? handle = some ⟨l ++ [name], offset⟩ ∧
      (Request.Latest names handle.index →
        ∃ content, s.file? name = some content ∧ content.size = offset)

section Carried

variable {l : Location} {names names' : List String} {s s' : MemoryStore}
  {d d' : DirectoryOutput} {handle : Handle} {name other : String} {content : ByteArray}

/-- A handle that is left alone stays the same in both, if its file does while it is the latest. -/
theorem SameHandle.carry (h : SameHandle l names s d handle)
    (hname : s'.nameOf? handle = s.nameOf? handle) (hfile : d'.file? handle = d.file? handle)
    (hnames : ∀ name, names[handle.index]? = some name → names'[handle.index]? = some name ∧
      (Request.Latest names' handle.index →
        Request.Latest names handle.index ∧ s'.file? name = s.file? name)) :
    SameHandle l names' s' d' handle := by
  rcases h with ⟨hclosed, hclosed'⟩ | ⟨name, offset, hat, hopen, hopen', hend⟩
  · exact .inl ⟨hname.trans hclosed, hfile.trans hclosed'⟩
  · obtain ⟨hat', hkept⟩ := hnames name hat
    refine .inr ⟨name, offset, hat', hname.trans hopen, hfile.trans hopen', fun hlatest => ?_⟩
    obtain ⟨hbefore, hsame⟩ := hkept hlatest
    obtain ⟨content, hcontent, hsize⟩ := hend hbefore
    exact ⟨content, hsame.trans hcontent, hsize⟩

/-- Once both have the same bytes under one name, they still have the same under the others. -/
theorem exists_stored_of_others (hs : s'.file? name = some content)
    (hd : d'.fileSystem.find? (l ++ [name]) = some (.file content))
    (hothers : ∀ other, other ≠ name → s'.file? other = s.file? other)
    (hothers' : ∀ other, other ≠ l ++ [name] →
      d'.fileSystem.find? other = d.fileSystem.find? other)
    (h : other ≠ name → ∃ content, s.file? other = some content ∧
      d.fileSystem.find? (l ++ [other]) = some (.file content)) :
    ∃ content, s'.file? other = some content ∧
      d'.fileSystem.find? (l ++ [other]) = some (.file content) := by
  by_cases heq : other = name
  · rw [heq]
    exact ⟨content, hs, hd⟩
  · have hplace : l ++ [other] ≠ l ++ [name] := fun hsame =>
      heq (List.singleton_inj.1 (List.append_cancel_left hsame))
    rw [hothers other heq, hothers' _ hplace]
    exact h heq

end Carried

/-- The stores after the same calls, which opened these names. -/
structure Matched (fs : FileSystem) (directory : String) (l : Location) (names : List String)
    (s : MemoryStore) (d : DirectoryOutput) : Prop where
  failOpen : s.failOpen = false
  shortWriteAt : s.shortWriteAt = none
  path : d.directory = directory
  reached : d.fileSystem.directory? directory = some l
  handles : s.handles.length = names.length
  files : d.files.length = names.length
  sameHandle : ∀ handle, SameHandle l names s d handle
  stored : ∀ name ∈ names, ∃ content, s.file? name = some content ∧
    d.fileSystem.find? (l ++ [name]) = some (.file content)
  others : ∀ other, (∀ name ∈ names, other ≠ l ++ [name]) →
    d.fileSystem.find? other = fs.find? other

namespace Matched

variable {fs : FileSystem} {directory path : String} {l : Location} {names : List String}
  {s : MemoryStore} {d : DirectoryOutput} {handle : Handle}

theorem creatable (h : Matched fs directory l names s d) (hroom : Room fs directory l path) :
    d.Creatable path (l ++ [path]) := by
  have hfound : (∃ content, d.fileSystem.find? (l ++ [path]) = some (.file content)) ∨
      d.fileSystem.find? (l ++ [path]) = fs.find? (l ++ [path]) := by
    by_cases hmem : path ∈ names
    · obtain ⟨content, -, hcontent⟩ := h.stored path hmem
      exact .inl ⟨content, hcontent⟩
    · refine .inr (h.others _ fun name hname heq => hmem ?_)
      rwa [List.singleton_inj.1 (List.append_cancel_left heq)]
  have hfree : d.fileSystem.find? (l ++ [path]) ≠ some .directory := by
    rcases hfound with ⟨content, hfile⟩ | hsame
    · simp [hfile]
    · rw [hsame]
      exact hroom.notDirectory
  constructor
  · rw [h.path]
    exact (FileSystem.target_join_eq_ok_iff h.reached hroom.plain).2 ⟨hroom.length, hfree, rfl⟩
  · intro device
    rcases hfound with ⟨content, hfile⟩ | hsame
    · simp [hfile]
    · rw [hsame]
      exact hroom.notDevice device

theorem openFile (h : Matched fs directory l names s d) (hroom : Room fs directory l path) :
    ∃ s' d', (Call.openFile path (.ok ⟨names.length⟩)).Serves s s' ∧
      (Call.openFile path (.ok ⟨names.length⟩)).Serves d d' ∧
      Matched fs directory l (names ++ [path]) s' d' := by
  obtain ⟨s', hserves, hs⟩ := MemoryStore.exists_opened h.failOpen path
  obtain ⟨d', hserves', hd⟩ := DirectoryOutput.exists_opened (h.creatable hroom)
  rw [h.handles] at hserves
  rw [h.files] at hserves'
  have hsame : d.fileSystem.SameBut (l ++ [path]) d'.fileSystem :=
    ⟨hd.others, hd.workingDirectory,
      FileSystem.not_directory_of_target (h.creatable hroom).target, _, hd.file⟩
  refine ⟨s', d', hserves, hserves', ?_⟩
  exact {
    failOpen := (MemoryStore.later_of_serves hserves).failOpen.trans h.failOpen
    shortWriteAt := hs.shortWriteAt.trans h.shortWriteAt
    path := hd.directory.trans h.path
    reached := hsame.directory? h.reached
    handles := by rw [hs.handles, List.length_append, h.handles, List.length_append]; rfl
    files := by rw [hd.files, List.length_append, h.files, List.length_append]; rfl
    sameHandle := fun handle => by
      have hname : s'.nameOf? handle =
          if handle.index = names.length then some path else s.nameOf? handle := by
        rw [MemoryStore.nameOf?, hs.handles, join_getElem?_concat, h.handles, MemoryStore.nameOf?]
      have hfile : d'.file? handle =
          if handle.index = names.length then some ⟨l ++ [path], 0⟩ else d.file? handle := by
        rw [DirectoryOutput.file?, hd.files, join_getElem?_concat, h.files, DirectoryOutput.file?]
        rfl
      by_cases hnew : handle.index = names.length
      · refine .inr ⟨path, 0, ?_, ?_, ?_, fun _ => ⟨_, hs.file, rfl⟩⟩
        · rw [hnew, List.getElem?_concat_length]
        · rw [hname, if_pos hnew]
        · rw [hfile, if_pos hnew]
      · rw [if_neg hnew] at hname hfile
        refine (h.sameHandle handle).carry hname hfile fun name hat => ?_
        have hlt : handle.index < names.length := (List.getElem?_eq_some_iff.1 hat).1
        refine ⟨by rwa [List.getElem?_append_left hlt], fun hlatest => ?_⟩
        obtain ⟨hbefore, hother⟩ := hlatest.of_concat hlt
        exact ⟨hbefore, hs.others name fun heq => hother (heq ▸ hat)⟩
    stored := fun name hname => exists_stored_of_others hs.file hd.file hs.others hd.others
      fun heq => h.stored name
        ((List.mem_append.1 hname).resolve_right fun hlast => heq (List.mem_singleton.1 hlast))
    others := fun other hother => by
      rw [hd.others other (hother path (List.mem_append_right _ List.mem_cons_self))]
      exact h.others other fun name hname => hother name (List.mem_append_left _ hname) }

theorem write (h : Matched fs directory l names s d) (hlatest : Request.Latest names handle.index)
    (bytes : ByteArray) :
    ∃ taken s' d', (Call.write handle bytes taken).Serves s s' ∧
      (Call.write handle bytes taken).Serves d d' ∧ Matched fs directory l names s' d' := by
  rcases h.sameHandle handle with ⟨hclosed, hclosed'⟩ | ⟨name, offset, hat, hopen, hopen', hend⟩
  · have hserves : (d.write handle bytes).value = (0, d) := by
      rw [DirectoryOutput.write, hclosed']
      rfl
    exact ⟨0, _, d, MemoryStore.write_of_closed hclosed bytes, hserves, h.failOpen,
      h.shortWriteAt, h.path, h.reached, h.handles, h.files, h.sameHandle, h.stored, h.others⟩
  obtain ⟨content, hfile, rfl⟩ := hend hlatest
  have hmem : name ∈ names := List.mem_of_getElem? hat
  obtain ⟨content', hfile', hfound⟩ := h.stored name hmem
  rw [hfile, Option.some.injEq] at hfile'
  subst hfile'
  have hserves := MemoryStore.write_of_open h.shortWriteAt hopen bytes
  obtain ⟨d', hserves', happends⟩ := DirectoryOutput.write_of_open hopen' hfound bytes
  generalize hs' : { s with
    writeLengths := s.writeLengths.push bytes.size
    files := Bindings.modify name (· ++ bytes) s.files } = s' at hserves
  have hnew : s'.file? name = some (content ++ bytes) := by
    rw [← hs', MemoryStore.file?, Bindings.get?_modify_self, ← MemoryStore.file?, hfile]
    rfl
  have hold : ∀ other, other ≠ name → s'.file? other = s.file? other := fun other hother => by
    rw [← hs']
    exact Bindings.get?_modify_of_ne hother ..
  have hhandles : s'.handles = s.handles := by rw [← hs']
  refine ⟨bytes.size, s', d', hserves, hserves', ?_⟩
  exact {
    failOpen := by rw [← hs']; exact h.failOpen
    shortWriteAt := by rw [← hs']; exact h.shortWriteAt
    path := happends.directory.trans h.path
    reached := happends.sameBut.directory? h.reached
    handles := by rw [hhandles, h.handles]
    files := happends.files.trans h.files
    sameHandle := fun other => by
      have hname : s'.nameOf? other = s.nameOf? other := by
        rw [MemoryStore.nameOf?, hhandles, MemoryStore.nameOf?]
      by_cases heq : other.index = handle.index
      · have hsame : other = handle := congrArg Handle.mk heq
        rw [hsame]
        exact .inr ⟨name, _, hat, hsame ▸ hname.trans (hsame ▸ hopen), happends.position,
          fun _ => ⟨_, hnew, rfl⟩⟩
      · refine (h.sameHandle other).carry hname (happends.others other heq) fun name' hat' =>
          ⟨hat', fun hlatest' => ⟨hlatest', hold name' ?_⟩⟩
        rintro rfl
        exact heq (Nat.le_antisymm (hlatest.le hat hat') (hlatest'.le hat' hat))
    stored := fun other hother => exists_stored_of_others hnew happends.file hold
      happends.sameBut.others fun _ => h.stored other hother
    others := fun other hother => by
      rw [happends.sameBut.others other (hother name hmem)]
      exact h.others other hother }

theorem close (h : Matched fs directory l names s d) (handle : Handle) :
    Matched fs directory l names (s.close handle) (d.close handle) := by
  refine ⟨h.failOpen, h.shortWriteAt, h.path, h.reached, ?_, ?_, fun other => ?_, h.stored,
    h.others⟩
  · exact List.length_set.trans h.handles
  · exact List.length_set.trans h.files
  · have hname := s.nameOf?_close handle other
    have hfile := d.file?_close handle other
    rw [h.handles] at hname
    rw [h.files] at hfile
    by_cases hclosed : handle.index = other.index ∧ handle.index < names.length
    · rw [if_pos hclosed] at hname hfile
      exact .inl ⟨hname, hfile⟩
    · rw [if_neg hclosed] at hname hfile
      exact (h.sameHandle other).carry hname hfile fun name hat =>
        ⟨hat, fun hlatest => ⟨hlatest, rfl⟩⟩

/-- Whatever the call, both give the same answer. -/
theorem perform (h : Matched fs directory l names s d) (r : Request)
    (hroom : ∀ name, r.name? = some name → Room fs directory l name)
    (hlatest : Request.WritesLatest names r) :
    (r.perform s).calls = (r.perform d).calls ∧
      Matched fs directory l (names ++ r.name?.toList) (r.perform s).transport
        (r.perform d).transport := by
  have hanswered : ∃ call s' d', Request.ofCall call = r ∧ call.Serves s s' ∧ call.Serves d d' ∧
      Matched fs directory l (names ++ r.name?.toList) s' d' := by
    cases r with
    | openFile path =>
      obtain ⟨s', d', hserves, hserves', hmatched⟩ := h.openFile (hroom path rfl)
      exact ⟨_, s', d', rfl, hserves, hserves', hmatched⟩
    | write handle bytes =>
      obtain ⟨taken, s', d', hserves, hserves', hmatched⟩ := h.write hlatest bytes
      exact ⟨_, s', d', rfl, hserves, hserves', (List.append_nil names).symm ▸ hmatched⟩
    | close handle =>
      exact ⟨.close handle, _, _, rfl, rfl, rfl, (List.append_nil names).symm ▸ h.close handle⟩
  obtain ⟨call, s', d', rfl, hserves, hserves', hmatched⟩ := hanswered
  obtain ⟨hcalls, rfl⟩ := Request.perform_of_serves hserves
  obtain ⟨hcalls', rfl⟩ := Request.perform_of_serves hserves'
  exact ⟨hcalls.trans hcalls'.symm, hmatched⟩

end Matched

namespace Request

variable {fs : FileSystem} {directory : String} {l : Location} {rs : List Request}

theorem performAll_matched (past : List Request) {s : MemoryStore} {d : DirectoryOutput}
    (h : Matched fs directory l (opened past) s d)
    (hroom : ∀ name ∈ opened rs, Room fs directory l name) (horderly : Orderly (past ++ rs)) :
    (performAll rs s).calls = (performAll rs d).calls ∧
      Matched fs directory l (opened (past ++ rs)) (performAll rs s).transport
        (performAll rs d).transport := by
  induction rs generalizing past s d with
  | nil => exact ⟨rfl, (List.append_nil past).symm ▸ h⟩
  | cons r rs ih =>
    have hopened : opened (r :: rs) = r.name?.toList ++ opened rs := by
      rw [opened, List.filterMap_cons, ← opened]
      cases r.name? <;> rfl
    rw [hopened, List.forall_mem_append] at hroom
    obtain ⟨hname, hrest⟩ := hroom
    obtain ⟨hcalls, hmatched⟩ := h.perform r (fun name hr => hname name (by simp [hr]))
      horderly.writesLatest
    rw [← opened_concat] at hmatched
    rw [List.append_cons] at horderly ⊢
    obtain ⟨hcallsRest, hmatchedRest⟩ := ih _ hmatched hrest horderly
    refine ⟨?_, hmatchedRest⟩
    rw [performAll, Run.calls_bind, hcalls, hcallsRest]
    rfl

/-- Calls made of an empty store in memory and of a directory are answered alike, and leave the same
files. The directory may hold other files before, which stay as they are. -/
theorem performAll_interchange (hdirectory : fs.directory? directory = some l)
    (hroom : ∀ name ∈ opened rs, Room fs directory l name) (horderly : Orderly rs) :
    let memory := performAll rs ({} : MemoryStore)
    let disk := performAll rs ({ fileSystem := fs, directory } : DirectoryOutput)
    memory.calls = disk.calls ∧
    (∀ name ∈ opened rs, ∃ content, memory.transport.file? name = some content ∧
      disk.transport.fileSystem.find? (l ++ [name]) = some (.file content)) ∧
    ∀ other, (∀ name ∈ opened rs, other ≠ l ++ [name]) →
      disk.transport.fileSystem.find? other = fs.find? other := by
  have hstart : Matched fs directory l (opened []) {} { fileSystem := fs, directory } := {
    failOpen := rfl
    shortWriteAt := rfl
    path := rfl
    reached := hdirectory
    handles := rfl
    files := rfl
    sameHandle := fun _ => .inl ⟨rfl, rfl⟩
    stored := fun _ h => absurd h List.not_mem_nil
    others := fun _ _ => rfl }
  obtain ⟨hcalls, hmatched⟩ := performAll_matched [] hstart hroom horderly
  exact ⟨hcalls, hmatched.stored, hmatched.others⟩

/-- Two files at once, a name that is opened again, and writes to handles that are closed or were
never given out. -/
theorem performAll_interchange_interleaved :
    let fs : FileSystem := { nodes := [(["out"], .directory), (["out", "a"], .file (zeroBytes 9))] }
    let rs : List Request := [.openFile "a", .openFile "b", .write ⟨1⟩ (zeroBytes 2),
      .write ⟨0⟩ (zeroBytes 3), .write ⟨7⟩ (zeroBytes 1), .write ⟨1⟩ .empty, .close ⟨0⟩,
      .write ⟨0⟩ (zeroBytes 4), .openFile "a", .write ⟨2⟩ (zeroBytes 1), .close ⟨9⟩]
    (fs.directory? "out" = some ["out"] ∧ (∀ name ∈ opened rs, Room fs "out" ["out"] name) ∧
      Orderly rs) ∧
    (performAll rs ({} : MemoryStore)).calls =
      (performAll rs ({ fileSystem := fs, directory := "out" } : DirectoryOutput)).calls := by
  intro fs rs
  have hdirectory : fs.directory? "out" = some ["out"] := by decide +kernel
  have hfirst : Room fs "out" ["out"] "a" :=
    ⟨by decide +kernel, by decide +kernel, by decide +kernel, fun _ h => nomatch h⟩
  have hsecond : Room fs "out" ["out"] "b" :=
    ⟨by decide +kernel, by decide +kernel, by decide +kernel, fun _ h => nomatch h⟩
  have hroom : ∀ name ∈ opened rs, Room fs "out" ["out"] name :=
    List.forall_mem_cons.2 ⟨hfirst, List.forall_mem_cons.2 ⟨hsecond,
      List.forall_mem_singleton.2 hfirst⟩⟩
  have horderly : Orderly rs := by decide +kernel
  exact ⟨⟨hdirectory, hroom, horderly⟩, (performAll_interchange hdirectory hroom horderly).1⟩

end Request

end RawProfile

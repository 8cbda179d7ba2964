import Mathlib.Data.List.Induction
import RawProfile.Proofs.Transport.Interchange

/-!
# The ledger of a store in memory

Everything that is done to a store, and every answer, makes a ledger, and the ledger alone says what
the store has to answer next (`Line.Answered`), which handles are open (`Ledger.openUnder?`) and
what is in the files (`Ledger.Content`): the parts that were taken of the writes since a name was
last opened, through whatever handle was open under that name. `Step` is what the line of an
operation tells about the store before and after it (`step_perform`), and `Tracks` what a store and
its ledger have in common at any time. A step carries that on (`Tracks.concat`), so after any
operations the accounts of the store are those of its ledger (`accounts_after`).
-/

namespace RawProfile

theorem countP_isSome {α : Type} (slots : List (Option α)) : slots.countP Option.isSome =
    (List.range slots.length).countP fun i => (slots[i]?).join.isSome := by
  have hslots : slots = (List.range slots.length).map fun i => (slots[i]?).join :=
    List.ext_getElem (by simp) fun i hi _ => by simp [hi]
  calc slots.countP Option.isSome
      = ((List.range slots.length).map fun i => (slots[i]?).join).countP Option.isSome :=
        congrArg _ hslots
    _ = _ := List.countP_map ..

/-- A line of a ledger: a call with its answer, or a fault that was switched on. -/
inductive Ledger.Line where
  | call (call : Call)
  | failOpens
  | shortenWrite (number : Nat)

/-- What was done to a store, the first thing first. -/
abbrev Ledger := List Ledger.Line

namespace Ledger

namespace Line

abbrev opening (name : String) (handle : Handle) : Line := .call (.openFile name (.ok handle))

abbrev closing (handle : Handle) : Line := .call (.close handle)

def handle? : Line → Option Handle
  | .call (.openFile _ (.ok handle)) => some handle
  | _ => none

def status? (handle : Handle) : Line → Option (Option String)
  | .call (.openFile name (.ok other)) => if other = handle then some (some name) else none
  | .call (.close other) => if other = handle then some none else none
  | _ => none

def length? : Line → Option Nat
  | .call (.write _ bytes _) => some bytes.size
  | _ => none

/-- The number of the write that is to be cut short from now on. -/
def injected? : Line → Option Nat
  | .shortenWrite number => some number
  | _ => none

def isFailOpens : Line → Bool
  | .failOpens => true
  | _ => false

def isOpenCall : Line → Bool
  | .call (.openFile ..) => true
  | _ => false

def isCloseCall : Line → Bool
  | .call (.close _) => true
  | _ => false

end Line

def handles (ledger : Ledger) : List Handle := ledger.filterMap Line.handle?

/-- The name under which a handle is open: the last opening or closing of the handle decides. -/
def openUnder? (ledger : Ledger) (handle : Handle) : Option String :=
  (ledger.filterMap (Line.status? handle)).getLast?.join

def writeLengths (ledger : Ledger) : List Nat := ledger.filterMap Line.length?

/-- The number of the write that is to be cut short, the last one that was set. -/
def injected? (ledger : Ledger) : Option Nat := (ledger.filterMap Line.injected?).getLast?

/-- Openings fail from now on. -/
def failing (ledger : Ledger) : Bool := ledger.any Line.isFailOpens

/-- The answer to an opening. -/
def openAnswer (past : Ledger) (name : String) : Except OpenError Handle :=
  if past.failing then .error ⟨name, "injected open failure"⟩ else .ok ⟨past.handles.length⟩

/-- The answer to a write of so many bytes. -/
def writeAnswer (past : Ledger) (handle : Handle) (length : Nat) : Nat :=
  if past.openUnder? handle = none then 0
  else if past.injected? = some past.writeLengths.length then length / 2
  else length

/-- The call got the answer that is due after what was done before. -/
def Line.Answered (past : Ledger) : Line → Prop
  | .call (.openFile name answer) => answer = past.openAnswer name
  | .call (.write handle bytes answer) => answer = past.writeAnswer handle bytes.size
  | _ => True

/-- What the line brought into the file of a name, given the names under which handles are open. -/
def Line.transferred (openUnder? : Handle → Option String) (name : String) : Line → ByteArray
  | .call (.write handle bytes answer) =>
    if openUnder? handle = some name then bytes.extract 0 answer else .empty
  | _ => .empty

/-- What some lines brought into the file of a name, one after the other. -/
def gathered (name : String) (past : Ledger) : Ledger → ByteArray
  | [] => .empty
  | line :: later => line.transferred past.openUnder? name ++ gathered name (past ++ [line]) later

/-- What is in the file of a name, if there is one: all that was brought into it since the name was
last opened. -/
inductive Content (name : String) : Ledger → Option ByteArray → Prop where
  | never {ledger : Ledger} : (∀ handle, .opening name handle ∉ ledger) → Content name ledger none
  | since (before : Ledger) (handle : Handle) (after : Ledger) :
      (∀ other, .opening name other ∉ after) →
      Content name (before ++ .opening name handle :: after)
        (some (gathered name (before ++ [.opening name handle]) after))

/-- The handle was given out for the name and has not been closed since. -/
def LiveUnder (ledger : Ledger) (handle : Handle) (name : String) : Prop :=
  ∃ before after, ledger = before ++ .opening name handle :: after ∧ .closing handle ∉ after

def liveHandles (ledger : Ledger) : List Handle :=
  ledger.handles.filter fun handle => (ledger.openUnder? handle).isSome

/-! ## One more line -/

section Concat

variable (ledger : Ledger) (line : Line)

theorem handles_concat : handles (ledger ++ [line]) = ledger.handles ++ line.handle?.toList := by
  rw [handles, List.filterMap_append, ← handles]
  cases h : line.handle? <;> simp [h]

theorem openUnder?_concat (handle : Handle) : openUnder? (ledger ++ [line]) handle =
    (line.status? handle).getD (ledger.openUnder? handle) := by
  rw [openUnder?, List.filterMap_append]
  cases h : line.status? handle <;> simp [h, openUnder?]

theorem writeLengths_concat :
    writeLengths (ledger ++ [line]) = ledger.writeLengths ++ line.length?.toList := by
  rw [writeLengths, List.filterMap_append, ← writeLengths]
  cases h : line.length? <;> simp [h]

theorem injected?_concat :
    injected? (ledger ++ [line]) = line.injected?.or ledger.injected? := by
  rw [injected?, List.filterMap_append]
  cases h : line.injected? <;> simp [h, injected?]

theorem failing_concat : failing (ledger ++ [line]) = (ledger.failing || line.isFailOpens) := by
  rw [failing, List.any_append, ← failing]
  simp

theorem gathered_concat (name : String) (past later : Ledger) :
    gathered name past (later ++ [line]) =
      gathered name past later ++ line.transferred (openUnder? (past ++ later)) name := by
  induction later generalizing past with
  | nil => simp [gathered]
  | cons first later ih =>
    rw [List.cons_append, gathered, gathered, ih, ByteArray.append_assoc, ← List.append_cons]

end Concat

variable {ledger : Ledger} {line : Line} {name : String} {content : Option ByteArray}

theorem Content.concat (h : Content name ledger content)
    (hline : ∀ handle, line ≠ .opening name handle) :
    Content name (ledger ++ [line])
      (content.map (· ++ line.transferred ledger.openUnder? name)) := by
  cases h with
  | never hnever =>
    refine .never fun handle hmem => ?_
    rcases List.mem_append.1 hmem with hmem | hmem
    · exact hnever handle hmem
    · exact hline handle (List.mem_singleton.1 hmem).symm
  | since before handle after hafter =>
    have hlater : ∀ other, .opening name other ∉ after ++ [line] := by
      intro other hmem
      rcases List.mem_append.1 hmem with hmem | hmem
      · exact hafter other hmem
      · exact hline other (List.mem_singleton.1 hmem).symm
    have hcontent := Content.since before handle (after ++ [line]) hlater
    rw [gathered_concat, ← List.append_cons] at hcontent
    rwa [List.append_assoc, List.cons_append]

theorem Content.opened (ledger : Ledger) (name : String) (handle : Handle) :
    Content name (ledger ++ [.opening name handle]) (some .empty) :=
  .since ledger handle [] fun _ h => absurd h List.not_mem_nil

variable {handle : Handle}

theorem LiveUnder.mem_handles (h : LiveUnder ledger handle name) : handle ∈ ledger.handles := by
  obtain ⟨before, after, rfl, -⟩ := h
  exact List.mem_filterMap.2
    ⟨.opening name handle, List.mem_append_right _ List.mem_cons_self, rfl⟩

theorem liveUnder_concat_iff : LiveUnder (ledger ++ [line]) handle name ↔
    line = .opening name handle ∨ LiveUnder ledger handle name ∧ line ≠ .closing handle := by
  constructor
  · rintro ⟨before, after, hsplit, hopen⟩
    rcases List.eq_nil_or_concat after with rfl | ⟨after, last, rfl⟩
    · have hlast := List.append_inj_right' hsplit rfl
      exact .inl (List.singleton_inj.1 hlast)
    · rw [List.concat_eq_append] at hsplit hopen
      rw [← List.cons_append, ← List.append_assoc] at hsplit
      obtain ⟨hledger, hlast⟩ := List.append_inj' hsplit rfl
      rw [List.mem_append, not_or, List.mem_singleton, ← List.singleton_inj.1 hlast] at hopen
      exact .inr ⟨⟨before, after, hledger, hopen.1⟩, fun h => hopen.2 h.symm⟩
  · rintro (rfl | ⟨⟨before, after, rfl, hopen⟩, hline⟩)
    · exact ⟨ledger, [], rfl, List.not_mem_nil⟩
    · refine ⟨before, after ++ [line], by rw [List.append_assoc, List.cons_append], ?_⟩
      rw [List.mem_append, not_or, List.mem_singleton]
      exact ⟨hopen, fun h => hline h.symm⟩

/-- Where no handle is given out twice, the last line about a handle says whether it is live. -/
theorem openUnder?_concat_eq_some_iff
    (h : ledger.openUnder? handle = some name ↔ LiveUnder ledger handle name)
    (hfresh : ∀ other, line.handle? = some other → other ∉ ledger.handles) :
    openUnder? (ledger ++ [line]) handle = some name ↔
      LiveUnder (ledger ++ [line]) handle name := by
  rw [openUnder?_concat, liveUnder_concat_iff]
  cases line with
  | failOpens => simpa [Line.status?] using h
  | shortenWrite number => simpa [Line.status?] using h
  | call c =>
    cases c with
    | write other bytes answer => simpa [Line.status?] using h
    | close other =>
      by_cases heq : other = handle
      · simp [Line.status?, heq]
      · simp [Line.status?, heq, h]
    | openFile path answer =>
      cases answer with
      | error e => simpa [Line.status?] using h
      | ok other =>
        by_cases heq : other = handle
        · subst heq
          have hdead : ¬ LiveUnder ledger other name := fun hlive =>
            hfresh other rfl hlive.mem_handles
          simp [Line.status?, hdead]
        · simp [Line.status?, heq, h]

end Ledger

namespace MemoryStore

/-- An operation on a store. Clones of a store are the same store, so the operations of all of them
make one list, in the order in which they take effect. -/
inductive Operation where
  | call (request : Request)
  | failOpens
  | shortenWrite (number : Nat)

def Operation.ofLine : Ledger.Line → Operation
  | .call c => .call (.ofCall c)
  | .failOpens => .failOpens
  | .shortenWrite number => .shortenWrite number

def perform (s : MemoryStore) : Operation → Ledger.Line × MemoryStore
  | .call request => (.call (request.perform s).value, (request.perform s).transport)
  | .failOpens => (.failOpens, s.withOpenFailure)
  | .shortenWrite number => (.shortenWrite number, s.withShortWriteAt number)

theorem ofLine_perform (s : MemoryStore) (op : Operation) : .ofLine (s.perform op).1 = op := by
  cases op with
  | failOpens => rfl
  | shortenWrite number => rfl
  | call request => cases request <;> rfl

/-- The handles that have been given out. -/
def issued (s : MemoryStore) : List Handle := (List.range s.handles.length).map Handle.mk

theorem nodup_issued (s : MemoryStore) : s.issued.Nodup :=
  List.pairwise_map.2 (List.nodup_range.imp fun hne h => hne (congrArg Handle.index h))

theorem file?_of_idle (s : MemoryStore) {line : Ledger.Line} {name : String}
    (h : line.transferred s.nameOf? name = .empty) :
    s.file? name = (s.file? name).map (· ++ line.transferred s.nameOf? name) := by
  rw [h]
  simp

/-- What the line of a step tells about the step. A step has to prove only what it changes. -/
structure Step (line : Ledger.Line) (s s' : MemoryStore) : Prop where
  issued : s'.issued = s.issued ++ line.handle?.toList := by exact (List.append_nil _).symm
  nameOf? : ∀ handle, s'.nameOf? handle = (line.status? handle).getD (s.nameOf? handle) := by
    exact fun _ => rfl
  failOpen : s'.failOpen = (s.failOpen || line.isFailOpens) := by exact (Bool.or_false _).symm
  shortWriteAt : s'.shortWriteAt = line.injected?.or s.shortWriteAt := by rfl
  openCalls : s'.openCalls = s.openCalls + if line.isOpenCall then 1 else 0 := by rfl
  writeLengths : s'.writeLengths.toList = s.writeLengths.toList ++ line.length?.toList := by
    exact (List.append_nil _).symm
  closeCalls : s'.closeCalls = s.closeCalls + if line.isCloseCall then 1 else 0 := by rfl
  opened : ∀ name handle, line = .opening name handle → s'.file? name = some .empty := by
    intro _ _ h
    cases h
  others : ∀ name, (∀ handle, line ≠ .opening name handle) →
      s'.file? name = (s.file? name).map (· ++ line.transferred s.nameOf? name) := by
    exact fun _ _ => s.file?_of_idle rfl

/-! ## What each operation does -/

section Step

variable {s s' : MemoryStore} {handle : Handle}

theorem openFile_of_failing (h : s.failOpen = true) (path : String) :
    s.openFile path =
      (.error ⟨path, "injected open failure"⟩, { s with openCalls := s.openCalls + 1 }) := by
  rw [openFile]
  exact if_pos h

theorem openFile_of_not_failing (h : s.failOpen = false) (path : String) :
    s.openFile path = (.ok ⟨s.handles.length⟩, { s with
      openCalls := s.openCalls + 1
      files := Bindings.put path .empty s.files
      handles := s.handles ++ [some path] }) := by
  rw [openFile]
  exact if_neg (ne_true_of_eq_false h)

/-- An opening that fails is counted, and that is all. -/
theorem eq_of_unopened {path : String} {e : OpenError} (h : s.openFile path = (.error e, s')) :
    s' = { s with openCalls := s.openCalls + 1 } := by
  rcases Bool.eq_false_or_eq_true s.failOpen with hfault | hfault
  · rw [openFile_of_failing hfault] at h
    exact (congrArg Prod.snd h).symm
  · rw [openFile_of_not_failing hfault] at h
    cases h

theorem step_opened (s : MemoryStore) (path : String) :
    Step (.opening path ⟨s.handles.length⟩) s { s with
      openCalls := s.openCalls + 1
      files := Bindings.put path .empty s.files
      handles := s.handles ++ [some path] } where
  issued := by simp [issued, List.range_succ, Ledger.Line.handle?]
  nameOf? := fun handle => by
    have hnew : (⟨s.handles.length⟩ : Handle) = handle ↔ handle.index = s.handles.length :=
      ⟨fun h => h ▸ rfl, fun h => congrArg Handle.mk h.symm⟩
    rw [MemoryStore.nameOf?, join_getElem?_concat, Ledger.Line.status?]
    by_cases h : handle.index = s.handles.length
    · rw [if_pos h, if_pos (hnew.2 h), Option.getD_some]
    · rw [if_neg h, if_neg (mt hnew.1 h), Option.getD_none, MemoryStore.nameOf?]
  opened := fun name _ h => by
    cases h
    exact Bindings.get?_put_self path .empty s.files
  others := fun name h => by
    have hne : name ≠ path := fun heq => h ⟨s.handles.length⟩ (by rw [heq])
    rw [file?, Bindings.get?_put_of_ne hne]
    exact s.file?_of_idle rfl

theorem step_openFile (s : MemoryStore) (path : String) :
    Step (.call (.openFile path (s.openFile path).1)) s (s.openFile path).2 := by
  rcases Bool.eq_false_or_eq_true s.failOpen with hfault | hfault
  · rw [openFile_of_failing hfault]
    exact {}
  · rw [openFile_of_not_failing hfault]
    exact s.step_opened path

theorem step_write_of_closed (hname : s.nameOf? handle = none) (bytes : ByteArray) :
    Step (.call (.write handle bytes 0)) s
      { s with writeLengths := s.writeLengths.push bytes.size } where
  writeLengths := Array.toList_push
  others := fun name _ => s.file?_of_idle (by
    rw [Ledger.Line.transferred, hname, if_neg (Option.some_ne_none name).symm])

theorem step_write_of_open {opened : String} (hname : s.nameOf? handle = some opened)
    (bytes : ByteArray) (answer : Nat) :
    Step (.call (.write handle bytes answer)) s { s with
      writeLengths := s.writeLengths.push bytes.size
      files := Bindings.modify opened (· ++ bytes.extract 0 answer) s.files } where
  writeLengths := Array.toList_push
  others := fun name _ => by
    by_cases heq : name = opened
    · subst heq
      rw [file?, Bindings.get?_modify_self, Ledger.Line.transferred, if_pos hname]
      rfl
    · have helsewhere : s.nameOf? handle ≠ some name := fun h =>
        heq (Option.some.inj (h.symm.trans hname))
      rw [file?, Bindings.get?_modify_of_ne heq]
      exact s.file?_of_idle (if_neg helsewhere)

theorem step_write (s : MemoryStore) (handle : Handle) (bytes : ByteArray) :
    Step (.call (.write handle bytes (s.write handle bytes).1)) s (s.write handle bytes).2 := by
  cases hname : s.nameOf? handle with
  | none =>
    rw [write_of_closed hname]
    exact step_write_of_closed hname bytes
  | some opened =>
    rw [write, hname]
    exact step_write_of_open hname bytes _

theorem step_close (s : MemoryStore) (handle : Handle) :
    Step (.closing handle) s (s.close handle) where
  issued := by simp [issued, close, Ledger.Line.handle?]
  nameOf? := fun other => by
    rw [nameOf?_close, Ledger.Line.status?]
    by_cases h : handle = other
    · subst h
      rw [if_pos rfl, Option.getD_some]
      split
      · rfl
      · next hindex =>
        have hunknown : s.handles.length ≤ handle.index :=
          Nat.not_lt.1 fun hlt => hindex ⟨rfl, hlt⟩
        rw [MemoryStore.nameOf?, List.getElem?_eq_none hunknown]
        rfl
    · have hindex : handle.index ≠ other.index := fun heq => h (congrArg Handle.mk heq)
      rw [if_neg h, if_neg fun h' => hindex h'.1, Option.getD_none]

/-- An operation changes of a store what its line tells. -/
theorem step_perform (s : MemoryStore) (op : Operation) :
    Step (s.perform op).1 s (s.perform op).2 := by
  cases op with
  | failOpens => exact { failOpen := (Bool.or_true _).symm }
  | shortenWrite number => exact {}
  | call request =>
    cases request with
    | openFile path => exact s.step_openFile path
    | write handle bytes => exact s.step_write handle bytes
    | close handle => exact s.step_close handle

end Step

/-- What a store and its ledger have in common. -/
structure Tracks (ledger : Ledger) (s : MemoryStore) : Prop where
  handles : ledger.handles = s.issued
  nameOf? : ∀ handle, s.nameOf? handle = ledger.openUnder? handle
  live : ∀ handle name, ledger.openUnder? handle = some name ↔ ledger.LiveUnder handle name
  failOpen : s.failOpen = ledger.failing
  shortWriteAt : s.shortWriteAt = ledger.injected?
  openCalls : s.openCalls = ledger.countP Ledger.Line.isOpenCall
  writeLengths : s.writeLengths.toList = ledger.writeLengths
  closeCalls : s.closeCalls = ledger.countP Ledger.Line.isCloseCall
  content : ∀ name, ledger.Content name (s.file? name)

/-- The counts of a store are those of a ledger. -/
structure Accounts (s : MemoryStore) (ledger : Ledger) : Prop where
  openCalls : s.openCalls = ledger.countP Ledger.Line.isOpenCall
  writeCalls : s.writeCalls = ledger.writeLengths.length
  writeLengths : s.writeLengths.toList = ledger.writeLengths
  closeCalls : s.closeCalls = ledger.countP Ledger.Line.isCloseCall
  openHandles : s.openHandles = ledger.liveHandles.length

namespace Tracks

variable {ledger : Ledger} {line : Ledger.Line} {s s' : MemoryStore} {handle : Handle}
  {name : String}

theorem new : Tracks [] {} where
  handles := rfl
  nameOf? := fun handle => rfl
  live := fun handle name => by simp [Ledger.openUnder?, Ledger.LiveUnder]
  failOpen := rfl
  shortWriteAt := rfl
  openCalls := rfl
  writeLengths := rfl
  closeCalls := rfl
  content := fun name => .never fun handle => List.not_mem_nil

theorem fresh (h : Tracks ledger s) (hstep : Step line s s')
    (hhandle : line.handle? = some handle) : handle ∉ ledger.handles := by
  have hnodup := s'.nodup_issued
  rw [hstep.issued, hhandle, ← h.handles] at hnodup
  exact fun hmem => (List.nodup_append.1 hnodup).2.2 handle hmem handle List.mem_cons_self rfl

/-- A step carries on what a store and its ledger have in common. -/
theorem concat (h : Tracks ledger s) (hstep : Step line s s') : Tracks (ledger ++ [line]) s' where
  handles := by rw [Ledger.handles_concat, h.handles, hstep.issued]
  nameOf? := fun handle => by rw [Ledger.openUnder?_concat, hstep.nameOf?, h.nameOf?]
  live := fun handle name => Ledger.openUnder?_concat_eq_some_iff (h.live handle name)
    fun _ hother => h.fresh hstep hother
  failOpen := by rw [Ledger.failing_concat, hstep.failOpen, h.failOpen]
  shortWriteAt := by rw [Ledger.injected?_concat, hstep.shortWriteAt, h.shortWriteAt]
  openCalls := by rw [List.countP_append, List.countP_singleton, hstep.openCalls, h.openCalls]
  writeLengths := by rw [Ledger.writeLengths_concat, hstep.writeLengths, h.writeLengths]
  closeCalls := by rw [List.countP_append, List.countP_singleton, hstep.closeCalls, h.closeCalls]
  content := fun name => by
    by_cases hopening : ∃ handle, line = .opening name handle
    · obtain ⟨handle, rfl⟩ := hopening
      rw [hstep.opened name handle rfl]
      exact .opened ledger name handle
    · have hline : ∀ handle, line ≠ .opening name handle := fun handle heq =>
        hopening ⟨handle, heq⟩
      rw [hstep.others name hline, funext h.nameOf?]
      exact (h.content name).concat hline

theorem length_handles (h : Tracks ledger s) : ledger.handles.length = s.handles.length := by
  rw [h.handles, issued, List.length_map, List.length_range]

theorem answered (h : Tracks ledger s) (op : Operation) : (s.perform op).1.Answered ledger := by
  cases op with
  | failOpens => trivial
  | shortenWrite number => trivial
  | call request =>
    cases request with
    | close handle => trivial
    | openFile path =>
      change (s.openFile path).1 = ledger.openAnswer path
      rw [Ledger.openAnswer, ← h.failOpen, h.length_handles]
      cases hfault : s.failOpen with
      | true => rw [openFile_of_failing hfault, if_pos rfl]
      | false => rw [openFile_of_not_failing hfault, if_neg Bool.false_ne_true]
    | write handle bytes =>
      change (s.write handle bytes).1 = ledger.writeAnswer handle bytes.size
      rw [Ledger.writeAnswer, ← h.nameOf?, ← h.shortWriteAt, ← h.writeLengths, Array.length_toList]
      cases hname : s.nameOf? handle with
      | none => rw [write_of_closed hname, if_pos rfl]
      | some name =>
        rw [write, hname, if_neg (Option.some_ne_none name)]
        rfl

theorem openHandles (h : Tracks ledger s) : s.openHandles = ledger.liveHandles.length := by
  rw [MemoryStore.openHandles, countP_isSome, Ledger.liveHandles, ← List.countP_eq_length_filter,
    h.handles, issued, List.countP_map]
  refine List.countP_congr fun i _ => ?_
  rw [Function.comp_apply, ← h.nameOf?, MemoryStore.nameOf?]

theorem accounts (h : Tracks ledger s) : s.Accounts ledger where
  openCalls := h.openCalls
  writeCalls := by rw [← h.writeLengths, Array.length_toList, writeCalls]
  writeLengths := h.writeLengths
  closeCalls := h.closeCalls
  openHandles := h.openHandles

end Tracks

/-! ## Any operations on a new store -/

/-- A store with everything that was done to it. -/
structure Watched where
  ledger : Ledger := []
  store : MemoryStore := {}

namespace Watched

def perform (w : Watched) (op : Operation) : Watched :=
  ⟨w.ledger ++ [(w.store.perform op).1], (w.store.perform op).2⟩

def after (ops : List Operation) : Watched := ops.foldl perform {}

theorem after_concat (ops : List Operation) (op : Operation) :
    after (ops ++ [op]) = (after ops).perform op := by
  rw [after, List.foldl_append]
  rfl

theorem tracks_after (ops : List Operation) : Tracks (after ops).ledger (after ops).store := by
  induction ops using List.reverseRecOn with
  | nil => exact .new
  | append_singleton ops op ih =>
    rw [after_concat]
    exact ih.concat ((after ops).store.step_perform op)

/-- The beginning of a ledger is the ledger of fewer operations. -/
theorem exists_eq_after (ops : List Operation) {past : Ledger}
    (h : past <+: (after ops).ledger) : ∃ before, past = (after before).ledger := by
  induction ops using List.reverseRecOn with
  | nil => exact ⟨[], List.prefix_nil.1 h⟩
  | append_singleton ops op ih =>
    rw [after_concat, perform, List.prefix_concat_iff] at h
    rcases h with h | h
    · exact ⟨ops ++ [op], by rw [h, after_concat, perform]⟩
    · exact ih h

/-- Every line of the ledger has the answer that is due after the lines before it. -/
theorem answered_after (ops : List Operation) {past : Ledger} {line : Ledger.Line}
    (h : past ++ [line] <+: (after ops).ledger) : line.Answered past := by
  obtain ⟨before, hbefore⟩ := exists_eq_after ops h
  rcases List.eq_nil_or_concat before with rfl | ⟨before, op, rfl⟩
  · exact absurd hbefore (List.append_ne_nil_of_right_ne_nil past (List.cons_ne_nil line []))
  · rw [List.concat_eq_append, after_concat] at hbefore
    obtain ⟨rfl, hline⟩ := List.append_inj' hbefore rfl
    rw [List.singleton_inj.1 hline]
    exact (tracks_after before).answered op

theorem operations_after (ops : List Operation) :
    (after ops).ledger.map Operation.ofLine = ops := by
  induction ops using List.reverseRecOn with
  | nil => rfl
  | append_singleton ops op ih =>
    rw [after_concat, perform, List.map_append, ih, List.map_singleton, ofLine_perform]

/-- After any operations on a new store, and so at any time in between: every call has got the
answer that is due after what was done before it; handles are given out in order and none of them
twice, and one is open exactly from then until it is closed; the files hold what was brought into
them, and the counts are those of the ledger. An opening that fails changes a count and nothing
else. -/
theorem accounts_after (ops : List Operation) :
    let ledger := (after ops).ledger
    let s := (after ops).store
    ledger.map Operation.ofLine = ops ∧
    (∀ past line, past ++ [line] <+: ledger → line.Answered past) ∧
    ledger.handles = (List.range ledger.handles.length).map Handle.mk ∧
    (∀ past, past <+: ledger → ∀ handle name,
      Ledger.openUnder? past handle = some name ↔ Ledger.LiveUnder past handle name) ∧
    (∀ name, ledger.Content name (s.file? name)) ∧
    (∀ path e s', s.openFile path = (.error e, s') →
      s' = { s with openCalls := s.openCalls + 1 }) ∧
    s.Accounts ledger := by
  intro ledger s
  have h := tracks_after ops
  refine ⟨operations_after ops, fun past line hline => answered_after ops hline, ?_,
    fun past hpast => ?_, h.content, fun _ _ _ hopen => eq_of_unopened hopen, h.accounts⟩
  · rw [h.length_handles]
    exact h.handles
  · obtain ⟨before, rfl⟩ := exists_eq_after ops hpast
    exact (tracks_after before).live

/-- Two handles of one name write to the same file. The third write, counted from zero as number two
and with the one through a closed handle, is cut short. -/
example :
    let w := after [.call (.openFile "a"), .call (.openFile "a"),
      .call (.write ⟨0⟩ "ab".toUTF8), .call (.close ⟨0⟩), .call (.write ⟨0⟩ "cd".toUTF8),
      .shortenWrite 2, .call (.write ⟨1⟩ "efgh".toUTF8)]
    w.store.file? "a" = some "abef".toUTF8 ∧ w.ledger.liveHandles = [⟨1⟩] := by
  decide +kernel

end Watched

end MemoryStore

end RawProfile

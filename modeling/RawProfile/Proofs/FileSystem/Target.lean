import RawProfile.FileSystem
import RawProfile.Proofs.Layout.Exact

/-!
# Files and their names

What putting a file and writing to it leave at each place of a file system, and which place a path
leads to (`target_eq_ok_iff`). A file system that differs in one plain file only (`SameBut`) has its
paths lead where they led before, the one to that file included (`SameBut.target`).
-/

namespace RawProfile

theorem guard_eq_ok_iff {ε α : Type} {c : Prop} [Decidable c] {e : ε} {x : Except ε α} {a : α} :
    (if c then .error e else x) = .ok a ↔ ¬ c ∧ x = .ok a := by
  split
  · next h => exact iff_of_false nofun fun h' => h'.1 h
  · next h => exact (and_iff_right h).symm

namespace FileSystem

variable {fs fs' : FileSystem} {l other : Location} {path : String}

@[simp] theorem find?_put_self (h : l ≠ []) (node : Node) : (fs.put l node).find? l = some node := by
  rw [find?, if_neg h]
  exact Bindings.get?_put_self ..

theorem find?_put_of_ne (h : other ≠ l) (node : Node) :
    (fs.put l node).find? other = fs.find? other := by
  rw [find?, find?]
  congr 1
  exact Bindings.get?_put_of_ne h ..

theorem find?_write_self {content : ByteArray} (h : fs.find? l = some (.file content))
    (bytes : ByteArray) :
    (fs.write ⟨l, content.size⟩ bytes).find? l = some (.file (content ++ bytes)) := by
  have hroot : l ≠ [] := by
    rintro rfl
    cases h
  rw [find?, if_neg hroot] at h ⊢
  rw [write, Bindings.get?_modify_self, h]
  exact congrArg (fun c => some (Node.file c)) (if_pos rfl)

theorem find?_write_of_ne (h : other ≠ l) (offset : Nat) (bytes : ByteArray) :
    (fs.write ⟨l, offset⟩ bytes).find? other = fs.find? other := by
  rw [find?, find?]
  congr 1
  exact Bindings.get?_modify_of_ne h ..

/-! ## Where a file may be created -/

/-- Where a file may be created or emptied: in a directory, under a name that stands for none. -/
theorem target_eq_ok_iff : fs.target path = .ok l ↔
    '\x00' ∉ path.toList ∧ path ≠ "" ∧ path.utf8ByteSize ≤ PathText.maxPath ∧
      ∃ name parent, (PathText.names path).getLast? = some name ∧
        fs.walk (fs.origin path) (PathText.names path).dropLast = .ok parent ∧
        fs.find? parent = some .directory ∧
        ¬ (name = "." ∨ name = ".." ∨ PathText.endsInSlash path) ∧
        name.utf8ByteSize ≤ PathText.maxName ∧
        fs.find? (parent ++ [name]) ≠ some .directory ∧ parent ++ [name] = l := by
  rw [target, guard_eq_ok_iff, guard_eq_ok_iff, guard_eq_ok_iff, Nat.not_lt]
  refine and_congr_right fun _ => and_congr_right fun _ => and_congr_right fun _ => ?_
  dsimp only
  cases (PathText.names path).getLast? with
  | none => simp
  | some name =>
    simp only [bind_eq_ok_iff, guard_eq_ok_iff, Option.some.injEq, exists_and_left, exists_eq_left',
      Nat.not_lt, Ne, Classical.not_not, Except.ok.injEq]

theorem target_ne_nil (h : fs.target path = .ok l) : l ≠ [] := by
  obtain ⟨-, -, -, name, parent, -, -, -, -, -, -, rfl⟩ := target_eq_ok_iff.1 h
  simp

theorem not_directory_of_target (h : fs.target path = .ok l) : fs.find? l ≠ some .directory := by
  obtain ⟨-, -, -, name, parent, -, -, -, -, -, hfree, rfl⟩ := target_eq_ok_iff.1 h
  exact hfree

/-- The same file system but for a plain file, which stands where there is no directory. -/
structure SameBut (fs : FileSystem) (l : Location) (fs' : FileSystem) : Prop where
  others : ∀ other, other ≠ l → fs'.find? other = fs.find? other
  workingDirectory : fs'.workingDirectory = fs.workingDirectory
  free : fs.find? l ≠ some .directory
  file : ∃ content, fs'.find? l = some (.file content)

namespace SameBut

variable (h : SameBut fs l fs')

include h

theorem find?_directory (hother : fs.find? other = some .directory) :
    fs'.find? other = some .directory := by
  rw [h.others other fun heq => h.free (heq ▸ hother)]
  exact hother

theorem find?_isNone (hother : ¬ (fs.find? other).isNone) : ¬ (fs'.find? other).isNone := by
  by_cases heq : other = l
  · obtain ⟨content, hfile⟩ := h.file
    rw [heq, hfile]
    exact Bool.false_ne_true
  · rw [h.others other heq]
    exact hother

theorem step {name : String} {next : Location} (hstep : fs.step other name = .ok next) :
    fs'.step other name = .ok next := by
  rw [FileSystem.step, guard_eq_ok_iff, Ne, Classical.not_not] at hstep ⊢
  obtain ⟨hdirectory, hstep⟩ := hstep
  refine ⟨h.find?_directory hdirectory, ?_⟩
  split at hstep
  · next hself =>
    rw [if_pos hself]
    exact hstep
  · next hself =>
    rw [if_neg hself]
    split at hstep
    · next hparent =>
      rw [if_pos hparent]
      exact hstep
    · next hparent =>
      rw [if_neg hparent, guard_eq_ok_iff, guard_eq_ok_iff]
      rw [guard_eq_ok_iff, guard_eq_ok_iff] at hstep
      exact ⟨hstep.1, h.find?_isNone hstep.2.1, hstep.2.2⟩

theorem walk {names : List String} {last : Location} (hwalk : fs.walk other names = .ok last) :
    fs'.walk other names = .ok last := by
  induction names generalizing other with
  | nil => exact hwalk
  | cons name names ih =>
    rw [FileSystem.walk, List.foldlM_cons, bind_eq_ok_iff] at hwalk ⊢
    obtain ⟨next, hstep, hrest⟩ := hwalk
    exact ⟨next, h.step hstep, ih hrest⟩

theorem target (htarget : fs.target path = .ok l) : fs'.target path = .ok l := by
  obtain ⟨hzero, hempty, hlength, name, parent, hlast, hwalk, hparent, hname, hsize, -, heq⟩ :=
    target_eq_ok_iff.1 htarget
  obtain ⟨content, hfile⟩ := h.file
  have horigin : fs'.origin path = fs.origin path := by
    rw [origin, origin, h.workingDirectory]
  refine target_eq_ok_iff.2 ⟨hzero, hempty, hlength, name, parent, hlast, ?_,
    h.find?_directory hparent, hname, hsize, ?_, heq⟩
  · rw [horigin]
    exact h.walk hwalk
  · rw [heq, hfile]
    simp

end SameBut

end FileSystem

end RawProfile

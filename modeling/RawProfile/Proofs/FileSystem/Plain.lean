import RawProfile.Proofs.FileSystem.Target

/-!
# Plain names in a directory

Most names stand for nothing but themselves: they hold no slash and no zero byte, and are neither
empty nor long nor made of dots. Below the path of a directory, such a name leads to the place of
that name in the directory, so a file can be created there unless another directory has the name
(`target_join_eq_ok_iff`).
-/

namespace RawProfile

namespace PathText

/-- A name that any directory can hold. -/
structure Plain (name : String) : Prop where
  nonempty : name ≠ ""
  short : name.utf8ByteSize ≤ maxName
  noSlash : '/' ∉ name.toList
  noZero : '\x00' ∉ name.toList
  notSelf : name ≠ "."
  notParent : name ≠ ".."

instance (name : String) : Decidable (Plain name) :=
  decidable_of_iff (name ≠ "" ∧ name.utf8ByteSize ≤ maxName ∧ '/' ∉ name.toList ∧
      '\x00' ∉ name.toList ∧ name ≠ "." ∧ name ≠ "..")
    ⟨fun ⟨h₁, h₂, h₃, h₄, h₅, h₆⟩ => ⟨h₁, h₂, h₃, h₄, h₅, h₆⟩,
      fun ⟨h₁, h₂, h₃, h₄, h₅, h₆⟩ => ⟨h₁, h₂, h₃, h₄, h₅, h₆⟩⟩

/-! ## Pieces between slashes -/

theorem pieces_ne_nil (cs : List Char) : pieces cs ≠ [] := by
  cases cs with
  | nil => exact List.cons_ne_nil _ _
  | cons c cs =>
    rw [pieces]
    split
    · exact List.cons_ne_nil _ _
    · split <;> exact List.cons_ne_nil _ _

theorem pieces_of_not_mem {cs : List Char} (h : '/' ∉ cs) : pieces cs = [cs] := by
  induction cs with
  | nil => rfl
  | cons c cs ih =>
    rw [List.mem_cons, not_or] at h
    rw [pieces, if_neg (Ne.symm h.1), ih h.2]

theorem pieces_append_slash (cs ds : List Char) :
    pieces (cs ++ '/' :: ds) = pieces cs ++ pieces ds := by
  induction cs with
  | nil => rfl
  | cons c cs ih =>
    rw [List.cons_append, pieces, ih, pieces]
    split
    · rfl
    · cases hcs : pieces cs with
      | nil => exact absurd hcs (pieces_ne_nil cs)
      | cons p ps => rfl

/-! ## A plain name below a directory -/

variable {directory name : String}

theorem Plain.not_isAbsolute (h : Plain name) : ¬ isAbsolute name := by
  rw [isAbsolute, decide_eq_true_iff]
  exact fun hhead => h.noSlash (List.mem_of_head? hhead)

/-- The path of a name ends in one slash and the name, and before that stands the directory, less
the slash it may end in. -/
theorem exists_toList_join (h : Plain name) (hdirectory : directory ≠ "") :
    ∃ stem, (join directory name).toList = stem ++ '/' :: name.toList ∧
      (directory.toList = stem ∨ directory.toList = stem ++ ['/']) := by
  rw [join, if_neg h.not_isAbsolute]
  by_cases hslash : endsInSlash directory
  · rw [endsInSlash, decide_eq_true_iff] at hslash
    obtain ⟨stem, hstem⟩ := List.getLast?_eq_some_iff.1 hslash
    refine ⟨stem, ?_, .inr hstem⟩
    rw [if_pos (.inr (by rwa [endsInSlash, decide_eq_true_iff])), String.toList_append, hstem,
      List.append_assoc, List.singleton_append]
  · refine ⟨directory.toList, ?_, .inl rfl⟩
    rw [if_neg (not_or.2 ⟨hdirectory, hslash⟩), String.toList_append, String.toList_append,
      List.append_assoc]
    rfl

theorem names_join (h : Plain name) (hdirectory : directory ≠ "") :
    names (join directory name) = names directory ++ [name] := by
  obtain ⟨stem, hjoin, hstem⟩ := exists_toList_join h hdirectory
  have hdirectoryPieces : (pieces directory.toList).filter (· ≠ []) =
      (pieces stem).filter (· ≠ []) := by
    rcases hstem with hstem | hstem
    · rw [hstem]
    · rw [hstem, pieces_append_slash, List.filter_append]
      exact List.append_nil _
  have hnonempty : name.toList ≠ [] := fun hnil => h.nonempty (String.toList_eq_nil_iff.1 hnil)
  have hname : (pieces name.toList).filter (· ≠ []) = [name.toList] := by
    rw [pieces_of_not_mem h.noSlash]
    exact List.filter_cons_of_pos (by simpa using hnonempty)
  rw [names, names, hjoin, pieces_append_slash, List.filter_append, hname, hdirectoryPieces,
    List.map_append, List.map_singleton, String.ofList_toList]

theorem isAbsolute_join (h : Plain name) (hdirectory : directory ≠ "") :
    isAbsolute (join directory name) = isAbsolute directory := by
  obtain ⟨stem, hjoin, hstem⟩ := exists_toList_join h hdirectory
  have hhead : (join directory name).toList.head? = directory.toList.head? := by
    rw [hjoin]
    rcases hstem with hstem | hstem
    · cases stem with
      | nil => exact absurd (String.toList_eq_nil_iff.1 hstem) hdirectory
      | cons c cs =>
        rw [hstem]
        rfl
    · rw [hstem, List.head?_append, List.head?_append]
      rfl
  rw [isAbsolute, isAbsolute, hhead]

theorem not_endsInSlash_join (h : Plain name) (hdirectory : directory ≠ "") :
    ¬ endsInSlash (join directory name) := by
  obtain ⟨stem, hjoin, -⟩ := exists_toList_join h hdirectory
  rw [endsInSlash, decide_eq_true_iff, hjoin]
  intro hlast
  obtain ⟨c, cs, hname⟩ :=
    List.exists_cons_of_ne_nil fun hnil => h.nonempty (String.toList_eq_nil_iff.1 hnil)
  rw [List.getLast?_append, hname, List.getLast?_cons_cons, ← hname] at hlast
  cases hend : name.toList.getLast? with
  | none => rw [List.getLast?_eq_none_iff.1 hend] at hname; cases hname
  | some d =>
    rw [hend] at hlast
    cases hlast
    exact h.noSlash (List.mem_of_getLast? hend)

theorem zero_not_mem_join (h : Plain name) (hdirectory : directory ≠ "")
    (hzero : '\x00' ∉ directory.toList) : '\x00' ∉ (join directory name).toList := by
  obtain ⟨stem, hjoin, hstem⟩ := exists_toList_join h hdirectory
  have hstemZero : '\x00' ∉ stem := by
    rcases hstem with hstem | hstem
    · rwa [← hstem]
    · rw [hstem] at hzero
      exact fun hmem => hzero (List.mem_append_left _ hmem)
  rw [hjoin, List.mem_append, List.mem_cons, not_or, not_or]
  exact ⟨hstemZero, by decide, h.noZero⟩

end PathText

namespace FileSystem

variable {fs fs' : FileSystem} {l other : Location} {directory name : String}

theorem directory?_eq_some_iff : fs.directory? directory = some l ↔
    (directory ≠ "" ∧ directory.utf8ByteSize ≤ PathText.maxPath ∧ '\x00' ∉ directory.toList) ∧
      fs.walk (fs.origin directory) (PathText.names directory) = .ok l ∧
      fs.find? l = some .directory := by
  rw [directory?]
  split
  · next h =>
    refine iff_of_false nofun fun hall => ?_
    obtain ⟨⟨hempty, hlength, hzero⟩, -⟩ := hall
    rcases h with h | h | h
    · exact hempty h
    · omega
    · exact hzero h
  · next h =>
    rw [not_or, not_or, Nat.not_lt] at h
    rw [and_iff_right h]
    cases fs.walk (fs.origin directory) (PathText.names directory) with
    | error e => exact iff_of_false nofun fun h => nomatch h.1
    | ok l' =>
      dsimp only
      split
      · next hl' =>
        rw [Option.some.injEq, Except.ok.injEq]
        exact ⟨fun heq => ⟨heq, heq ▸ hl'⟩, And.left⟩
      · next hl' =>
        refine iff_of_false nofun fun ⟨heq, hl⟩ => hl' ?_
        rw [Except.ok.inj heq]
        exact hl

/-- A plain name below a directory leads to its place in the directory and nowhere else, unless a
directory is there. -/
theorem target_join_eq_ok_iff (hdirectory : fs.directory? directory = some l)
    (hname : PathText.Plain name) : fs.target (PathText.join directory name) = .ok other ↔
      (PathText.join directory name).utf8ByteSize ≤ PathText.maxPath ∧
        fs.find? (l ++ [name]) ≠ some .directory ∧ l ++ [name] = other := by
  obtain ⟨⟨hempty, -, hzero⟩, hwalk, hl⟩ := directory?_eq_some_iff.1 hdirectory
  have hnames := PathText.names_join hname hempty
  have hjoin : PathText.join directory name ≠ "" := by
    intro heq
    have hnil : PathText.names directory ++ [name] = [] := by
      rw [← hnames, heq]
      rfl
    exact List.append_ne_nil_of_right_ne_nil _ (List.cons_ne_nil _ _) hnil
  have horigin : fs.origin (PathText.join directory name) = fs.origin directory := by
    rw [origin, origin, PathText.isAbsolute_join hname hempty]
  rw [target_eq_ok_iff, hnames, List.getLast?_concat, List.dropLast_concat, horigin, hwalk]
  constructor
  · rintro ⟨-, -, hlength, name', parent, hlast, hparent, -, -, -, hfree, rfl⟩
    cases hlast
    cases hparent
    exact ⟨hlength, hfree, rfl⟩
  · rintro ⟨hlength, hfree, rfl⟩
    refine ⟨PathText.zero_not_mem_join hname hempty hzero, hjoin, hlength, name, l, rfl, rfl, hl,
      ?_, hname.short, hfree, rfl⟩
    rw [not_or, not_or]
    exact ⟨hname.notSelf, hname.notParent, PathText.not_endsInSlash_join hname hempty⟩

theorem SameBut.directory? (h : fs.SameBut other fs') (hl : fs.directory? directory = some l) :
    fs'.directory? directory = some l := by
  obtain ⟨htext, hwalk, hfind⟩ := directory?_eq_some_iff.1 hl
  have horigin : fs'.origin directory = fs.origin directory := by
    rw [origin, origin, h.workingDirectory]
  refine directory?_eq_some_iff.2 ⟨htext, ?_, h.find?_directory hfind⟩
  rw [horigin]
  exact h.walk hwalk

end FileSystem

end RawProfile

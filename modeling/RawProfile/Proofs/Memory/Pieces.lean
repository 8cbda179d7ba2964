import Mathlib.Data.Set.Card
import Mathlib.Tactic.Linarith
import Mathlib.Topology.MetricSpace.Pseudo.Lemmas
import Mathlib.Topology.Order.IntermediateValue
import RawProfile.Proofs.Memory.ByteMap

/-!
# The pieces of sparse memory

On a line of addresses, a region takes up the closed interval from its first address to the address
after its last byte (`Region.line`), which is a point if the region is empty. Regions with gaps
between them are the connected pieces of what they take up together (`pieces_lines`). So they are
decided by that and by their bytes (`Spaced.eq_of_lines`), and a region that is put in adds its own
interval and nothing else (`lines_insert`).
-/

namespace RawProfile

/-- The connected pieces of a set on the line. -/
def pieces (u : Set ℝ) : Set (Set ℝ) := {c | ∃ x ∈ u, connectedComponentIn u x = c}

namespace Region

/-- What a region takes up of the line. -/
def line (r : Region) : Set ℝ := Set.Icc (r.base.toNat : ℝ) r.limit

def lines (rs : List Region) : Set ℝ := {x | ∃ r ∈ rs, x ∈ r.line}

variable {r s : Region} {rs ss : List Region} {x : ℝ}

theorem base_le_limit (r : Region) : r.base.toNat ≤ r.limit := Nat.le_add_right _ _

theorem base_mem_line (r : Region) : (r.base.toNat : ℝ) ∈ r.line :=
  Set.left_mem_Icc.2 (Nat.cast_le.2 r.base_le_limit)

theorem limit_mem_line (r : Region) : (r.limit : ℝ) ∈ r.line :=
  Set.right_mem_Icc.2 (Nat.cast_le.2 r.base_le_limit)

theorem line_subset_lines (h : r ∈ rs) : r.line ⊆ lines rs := fun _ hx => ⟨r, h, hx⟩

@[simp] theorem lines_nil : lines [] = ∅ := by
  ext x
  simp [lines]

theorem lines_cons (r : Region) (rs : List Region) : lines (r :: rs) = r.line ∪ lines rs := by
  ext x
  simp [lines]

/-! ## Putting regions in -/

theorem line_absorb {new old : Region} (hold : new.base.toNat ≤ old.limit)
    (hnew : old.base.toNat ≤ new.limit) : (new.absorb old).line = new.line ∪ old.line := by
  unfold line
  rw [toNat_base_absorb, limit_absorb hold hnew, Nat.cast_min, Nat.cast_max,
    Set.Icc_union_Icc' (Nat.cast_le.2 hnew) (Nat.cast_le.2 hold)]

theorem lines_insert (new : Region) (rs : List Region) :
    lines (insert new rs) = new.line ∪ lines rs := by
  induction rs generalizing new with
  | nil => rw [insert, lines_cons]
  | cons r rs ih =>
    rw [insert]
    split
    · rw [lines_cons, ih, lines_cons, Set.union_left_comm]
    · split
      · rw [lines_cons]
      · rw [ih, line_absorb (by omega) (by omega), lines_cons, Set.union_assoc]

/-! ## Regions with gaps between them -/

section Gaps

variable (hrs : rs.Pairwise fun r s => r.limit < s.base.toNat)

include hrs

/-- A point that another region takes up is a whole step away. -/
theorem far_of_not_mem_line (hr : r ∈ rs) (hx : x ∈ lines rs) (hout : x ∉ r.line) :
    x + 1 ≤ r.base.toNat ∨ r.limit + 1 ≤ x := by
  obtain ⟨s, hs, hxs⟩ := hx
  have hne : r ≠ s := fun heq => hout (heq ▸ hxs)
  by_cases hbelow : s.limit < r.base.toNat
  · have hstep : (s.limit + 1 : ℝ) ≤ r.base.toNat := by exact_mod_cast hbelow
    exact .inl (by linarith [hxs.2])
  · have habove : r.limit < s.base.toNat := Nat.lt_of_not_le fun hle =>
      hne (eq_of_mem hrs hr hs (Nat.le_of_not_lt hbelow) hle)
    have hstep : (r.limit + 1 : ℝ) ≤ s.base.toNat := by exact_mod_cast habove
    exact .inr (hstep.trans hxs.1)

/-- Half a step beyond a region, no region takes up the line. -/
theorem not_mem_lines_above (hr : r ∈ rs) : (r.limit + 1 / 2 : ℝ) ∉ lines rs := by
  intro hmem
  have hle : (r.base.toNat : ℝ) ≤ r.limit := Nat.cast_le.2 r.base_le_limit
  have hout : (r.limit + 1 / 2 : ℝ) ∉ r.line := fun hx => by linarith [hx.2]
  rcases far_of_not_mem_line hrs hr hmem hout with hfar | hfar <;> linarith

theorem not_mem_lines_below (hr : r ∈ rs) : (r.base.toNat - 1 / 2 : ℝ) ∉ lines rs := by
  intro hmem
  have hle : (r.base.toNat : ℝ) ≤ r.limit := Nat.cast_le.2 r.base_le_limit
  have hout : (r.base.toNat - 1 / 2 : ℝ) ∉ r.line := fun hx => by linarith [hx.1]
  rcases far_of_not_mem_line hrs hr hmem hout with hfar | hfar <;> linarith

/-- What is connected does not leave a region. -/
theorem subset_line_of_isPreconnected {c : Set ℝ} (hc : IsPreconnected c) (hsub : c ⊆ lines rs)
    (hr : r ∈ rs) (hx : x ∈ r.line) (hxc : x ∈ c) : c ⊆ r.line := by
  intro y hy
  obtain ⟨hbase, hlimit⟩ := hx
  by_contra hout
  rcases far_of_not_mem_line hrs hr (hsub hy) hout with hbelow | habove
  · exact not_mem_lines_below hrs hr
      (hsub (hc.Icc_subset hy hxc ⟨by linarith, by linarith⟩))
  · exact not_mem_lines_above hrs hr
      (hsub (hc.Icc_subset hxc hy ⟨by linarith, by linarith⟩))

/-- The piece around a point of a region is the interval of that region. -/
theorem connectedComponentIn_lines (hr : r ∈ rs) (hx : x ∈ r.line) :
    connectedComponentIn (lines rs) x = r.line := by
  apply Set.Subset.antisymm
  · exact subset_line_of_isPreconnected hrs isPreconnected_connectedComponentIn
      (connectedComponentIn_subset _ _) hr hx (mem_connectedComponentIn ⟨r, hr, hx⟩)
  · exact isPreconnected_Icc.subset_connectedComponentIn hx (line_subset_lines hr)

/-- The regions are the pieces of what they take up. -/
theorem pieces_lines : pieces (lines rs) = {c | ∃ r ∈ rs, r.line = c} := by
  ext c
  constructor
  · rintro ⟨x, ⟨r, hr, hx⟩, rfl⟩
    exact ⟨r, hr, (connectedComponentIn_lines hrs hr hx).symm⟩
  · rintro ⟨r, hr, rfl⟩
    have hbase := r.base_mem_line
    exact ⟨_, ⟨r, hr, hbase⟩, connectedComponentIn_lines hrs hr hbase⟩

end Gaps

theorem eq_of_line_eq (h : r.line = s.line) : r.base = s.base ∧ r.limit = s.limit := by
  have hr := r.base_mem_line
  have hr' := r.limit_mem_line
  have hs := s.base_mem_line
  have hs' := s.limit_mem_line
  rw [h] at hr hr'
  rw [← h] at hs hs'
  have hbase := Nat.cast_le.1 hr.1
  have hbase' := Nat.cast_le.1 hs.1
  have hlimit := Nat.cast_le.1 hr'.2
  have hlimit' := Nat.cast_le.1 hs'.2
  exact ⟨UInt64.toNat_inj.1 (Nat.le_antisymm hbase' hbase), Nat.le_antisymm hlimit hlimit'⟩

theorem eq_of_at? (hbase : r.base = s.base) (hlimit : r.limit = s.limit)
    (hbytes : ∀ a, r.base.toNat ≤ a → a < r.limit → r.at? a = s.at? a) : r = s := by
  obtain ⟨base, bytes⟩ := r
  obtain ⟨base', bytes'⟩ := s
  cases hbase
  have hsize : bytes.size = bytes'.size := Nat.add_left_cancel hlimit
  refine congrArg (Region.mk base) (ByteArray.ext_getElem hsize fun i hi hi' => ?_)
  have hbyte := hbytes (base.toNat + i) (Nat.le_add_right _ _) (Nat.add_lt_add_left hi _)
  have hoffset : base.toNat + i - base.toNat = i := Nat.add_sub_cancel_left _ _
  have hin : base.toNat + i - base.toNat < bytes.size := hoffset.symm ▸ hi
  have hin' : base.toNat + i - base.toNat < bytes'.size := hoffset.symm ▸ hi'
  rw [at?_eq_getElem (Nat.le_add_right _ _) hin, at?_eq_getElem (Nat.le_add_right _ _) hin',
    Option.some.injEq] at hbyte
  calc bytes[i] = bytes[base.toNat + i - base.toNat] := (getElem_congr_idx hoffset).symm
    _ = bytes'[base.toNat + i - base.toNat] := hbyte
    _ = bytes'[i] := getElem_congr_idx hoffset

theorem Spaced.nodup (h : Spaced rs) : rs.Nodup := by
  refine h.gaps.imp fun {r s} hlt heq => ?_
  have := r.base_le_limit
  rw [heq] at hlt this
  omega

theorem Spaced.ncard_pieces (h : Spaced rs) : (pieces (lines rs)).ncard = rs.length := by
  have hinj : Set.InjOn line {r | r ∈ rs} := by
    intro r hr s hs hline
    obtain ⟨hbase, hlimit⟩ := eq_of_line_eq hline
    exact eq_of_mem h.gaps hr hs (hbase ▸ s.base_le_limit) (hbase ▸ r.base_le_limit)
  have himage : {c | ∃ r ∈ rs, r.line = c} = line '' {r | r ∈ rs} := rfl
  rw [pieces_lines h.gaps, himage, hinj.ncard_image, ← List.coe_toFinset, Set.ncard_coe_finset,
    List.toFinset_card_of_nodup h.nodup]

theorem mem_of_lines (hrs : rs.Pairwise fun r s => r.limit < s.base.toNat)
    (hss : ss.Pairwise fun r s => r.limit < s.base.toNat) (hlines : lines rs = lines ss)
    (hbytes : ∀ a, rs.findSome? (·.at? a) = ss.findSome? (·.at? a)) (hr : r ∈ rs) : r ∈ ss := by
  have hpiece : r.line ∈ pieces (lines ss) := by
    rw [← hlines, pieces_lines hrs]
    exact ⟨r, hr, rfl⟩
  rw [pieces_lines hss] at hpiece
  obtain ⟨s, hs, hline⟩ := hpiece
  obtain ⟨hbase, hlimit⟩ := eq_of_line_eq hline
  have hsame : s = r := eq_of_at? hbase hlimit fun a hge hlt => by
    obtain ⟨b, hb⟩ := Option.isSome_iff_exists.1 (isSome_at?_iff.2 ⟨hge, hlt⟩)
    have hfound := findSome?_at? hss hs hb
    obtain ⟨c, hc⟩ := Option.isSome_iff_exists.1
      (isSome_at?_iff (r := r).2 ⟨hbase ▸ hge, hlimit ▸ hlt⟩)
    rw [← hbytes, findSome?_at? hrs hr hc] at hfound
    rw [hb, hc, hfound]
  exact hsame ▸ hs

theorem Spaced.eq_of_lines (hrs : Spaced rs) (hss : Spaced ss) (hlines : lines rs = lines ss)
    (hbytes : ∀ a, rs.findSome? (·.at? a) = ss.findSome? (·.at? a)) : rs = ss := by
  have hperm : rs.Perm ss := (List.perm_ext_iff_of_nodup hrs.nodup hss.nodup).2 fun r =>
    ⟨mem_of_lines hrs.gaps hss.gaps hlines hbytes,
      mem_of_lines hss.gaps hrs.gaps hlines.symm fun a => (hbytes a).symm⟩
  refine hperm.eq_of_pairwise (fun r s _ _ hlt hlt' => ?_) hrs.gaps hss.gaps
  have := r.base_le_limit
  have := s.base_le_limit
  omega

end Region

end RawProfile

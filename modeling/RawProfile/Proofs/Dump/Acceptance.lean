import RawProfile.Proofs.Dump.Protocol

/-!
# Accepted files

`Accepted path file calls`: by these calls a transport took the whole of a file, as far as its own
answers tell. A dump succeeds if and only if that happened: `accepted_of_writeTo` and
`writeTo_of_accepted`.
-/

namespace RawProfile

/-- By these calls a transport took a whole file: it opened it, took every byte of every write, and
closed it. -/
def Accepted (path : String) (file : ByteArray) (calls : List Call) : Prop :=
  ∃ handle, ∃ sent : List Sent,
    calls = .openFile path (.ok handle) :: sent.map (·.call handle) ++ [.close handle] ∧
      (∀ s ∈ sent, s.Whole) ∧ joined (sent.map Sent.bytes) = file

variable {path : String} {file : ByteArray}

theorem not_accepted_nil : ¬ Accepted path file [] := by
  rintro ⟨handle, sent, hcalls, -, -⟩
  cases hcalls

theorem not_accepted_unopened {answered : String} {e : OpenError} :
    ¬ Accepted path file [.openFile answered (.error e)] := by
  rintro ⟨handle, sent, hcalls, -, -⟩
  cases hcalls

theorem not_accepted_cutShort {opened : String} {handle : Handle} {sent : List Sent} {last : Sent}
    (hshort : ¬ last.Whole) : ¬ Accepted path file
      (.openFile opened (.ok handle) :: (sent ++ [last]).map (·.call handle) ++
        [.close handle]) := by
  rintro ⟨handle', sent', hcalls, hwhole, -⟩
  have hwrites : (sent ++ [last]).map (·.call handle) = sent'.map (·.call handle') :=
    (List.append_inj' (List.cons.inj hcalls).2 rfl).1
  have hlast : last.call handle ∈ sent'.map (·.call handle') := by
    rw [← hwrites]
    exact List.mem_map_of_mem (List.mem_append_right _ List.mem_cons_self)
  obtain ⟨s, hs, heq⟩ := List.mem_map.1 hlast
  obtain ⟨-, hbytes, htaken⟩ := Call.write.inj heq
  have : s.bytes.size ≤ s.taken := hwhole s hs
  rw [hbytes, htaken] at this
  exact hshort this

namespace Dump

variable {σ : Type} [Transport σ] {d : Dump} {p : Plan} {fileName : String} {t : σ}

theorem Plans.joined_writes_eq (h : d.Plans p) : joined (p.writes.map (·.2)) = p.file := by
  have hpadding : zeroBytes p.layout.paddingAfterBitmap.toNat = .empty := by
    rw [h.fits.paddingAfterBitmap]
    rfl
  rw [Plan.joined_writes, Plan.file, hpadding, ByteArray.append_empty]

/-- If a dump succeeds, the file of its plan was accepted. -/
theorem accepted_of_writeTo {summary : Summary}
    (h : (d.writeTo fileName t).value.1 = .ok summary) :
    ∃ p, d.Plans p ∧ Accepted fileName p.file (d.writeTo fileName t).calls := by
  obtain ⟨p, handle, sent, hplan, -, hsent, hwhole, -, hcalls⟩ := Ending.describes_complete h
  have hp := plan_eq_ok_iff.1 hplan
  refine ⟨p, hp, handle, sent, hcalls, hwhole, ?_⟩
  rw [← hp.joined_writes_eq, ← hsent, List.map_map]
  rfl

/-- If a transport accepted a file from a dump, the dump succeeds. -/
theorem writeTo_of_accepted {file : ByteArray}
    (h : Accepted fileName file (d.writeTo fileName t).calls) :
    ∃ summary, (d.writeTo fileName t).value.1 = .ok summary := by
  obtain ⟨ending, hending⟩ := exists_ending d fileName t
  cases ending with
  | unplanned =>
    obtain ⟨e, -, -, -, -, hcalls⟩ := hending
    rw [hcalls] at h
    exact absurd h not_accepted_nil
  | unopened =>
    obtain ⟨p, e, -, -, -, hcalls⟩ := hending
    rw [hcalls] at h
    exact absurd h not_accepted_unopened
  | complete =>
    obtain ⟨p, handle, sent, -, -, -, -, hvalue, -⟩ := hending
    exact ⟨_, congrArg Prod.fst hvalue⟩
  | cutShort =>
    obtain ⟨p, handle, sent, last, rest, -, -, -, -, hshort, -, hcalls⟩ := hending
    rw [hcalls] at h
    exact absurd h (not_accepted_cutShort (Nat.not_le.2 hshort))

end Dump

end RawProfile

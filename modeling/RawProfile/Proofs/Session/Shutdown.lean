import Mathlib.Data.List.DropRight
import Mathlib.Data.List.Induction
import RawProfile.Proofs.Session.Steps

/-!
# Dumping once

Which shutdown of a run dumps is told from the operations before it: the first one since the last
reset that comes after a registration of a record (`Due`). `Gate.tracks_foldl` is the invariant that
the gate tells so, and `shutdown_dumps_once` what it means for the operations of a run.
-/

namespace RawProfile

namespace Session

/-- The operations since the last reset; all of them, if there was none. -/
def sinceReset (actions : List Action) : List Action := actions.rtakeWhile (!·.isReset)

/-- A shutdown that comes next is the first after a registration of a record. -/
structure Due (since : List Action) : Prop where
  registered : ∃ a ∈ since, a.registersRecord
  first : since.Pairwise fun a b => a.registersRecord → ¬ b.isShutdown

theorem sinceReset_concat_reset {actions : List Action} {a : Action} (h : a.isReset) :
    sinceReset (actions ++ [a]) = [] := by
  rw [sinceReset, List.rtakeWhile_concat, if_neg (by simp [h])]

theorem sinceReset_concat {actions : List Action} {a : Action} (h : ¬ a.isReset) :
    sinceReset (actions ++ [a]) = sinceReset actions ++ [a] := by
  rw [sinceReset, List.rtakeWhile_concat, if_pos (by simp [h]), sinceReset]

theorem sinceReset_append {actions rest : List Action} (h : ∀ a ∈ rest, ¬ a.isReset) :
    sinceReset (actions ++ rest) = sinceReset actions ++ rest := by
  induction rest using List.reverseRecOn with
  | nil => rw [List.append_nil, List.append_nil]
  | append_singleton rest a ih =>
    have hrest := ih fun b hb => h b (List.mem_append_left _ hb)
    have ha : ¬ a.isReset := h a (List.mem_append_right _ List.mem_cons_self)
    rw [← List.append_assoc, sinceReset_concat ha, hrest, List.append_assoc]

theorem due_of_registersRecord {since : List Action} {a : Action}
    (hnone : ∀ b ∈ since, ¬ b.registersRecord) (ha : a.registersRecord) : Due (since ++ [a]) := by
  refine ⟨⟨a, List.mem_append_right _ List.mem_cons_self, ha⟩, ?_⟩
  refine List.pairwise_append.2 ⟨?_, List.pairwise_singleton _ a, ?_⟩
  · exact List.pairwise_of_forall_mem_list fun b hb _ _ hregisters => absurd hregisters (hnone b hb)
  · exact fun b hb _ _ hregisters => absurd hregisters (hnone b hb)

theorem Due.concat {since : List Action} {a : Action} (h : Due since) (ha : ¬ a.isShutdown) :
    Due (since ++ [a]) := by
  obtain ⟨⟨b, hb, hregisters⟩, hfirst⟩ := h
  refine ⟨⟨b, List.mem_append_left _ hb, hregisters⟩, ?_⟩
  refine List.pairwise_append.2 ⟨hfirst, List.pairwise_singleton _ a, fun _ _ c hc _ => ?_⟩
  rw [List.mem_singleton.1 hc]
  exact ha

theorem not_due_of_shutdown {earlier later : List Action} {a b : Action} (ha : a ∈ earlier)
    (hregisters : a.registersRecord) (hshutdown : b.isShutdown) :
    ¬ Due (earlier ++ b :: later) := by
  intro h
  obtain ⟨-, -, hbetween⟩ := List.pairwise_append.1 h.first
  exact hbetween a ha b List.mem_cons_self hregisters hshutdown

end Session

open Session

namespace Gate

/-- The state of the gate goes with the operations since the last reset. -/
inductive Tracks : Gate → List Action → Prop where
  | idle {since : List Action} : (∀ a ∈ since, ¬ a.registersRecord) → Tracks .disarmed since
  | due {since : List Action} : Due since → Tracks .armed since
  /-- After a record was registered, there was a shutdown. -/
  | past {earlier later : List Action} {a b : Action} : a ∈ earlier → a.registersRecord →
      b.isShutdown → Tracks .fired (earlier ++ b :: later)

variable {g : Gate} {since : List Action} {a : Action}

theorem Tracks.armed_iff (h : g.Tracks since) : g = .armed ↔ Due since := by
  cases h with
  | idle hnone =>
    refine iff_of_false (by simp) fun hdue => ?_
    obtain ⟨a, ha, hregisters⟩ := hdue.registered
    exact hnone a ha hregisters
  | due hdue => exact iff_of_true rfl hdue
  | past ha hregisters hshutdown =>
    exact iff_of_false (by simp) (not_due_of_shutdown ha hregisters hshutdown)

theorem Tracks.idle_concat (h : Tracks .disarmed since) (hregisters : ¬ a.registersRecord) :
    Tracks .disarmed (since ++ [a]) := by
  cases h with
  | idle hnone =>
    exact .idle (List.forall_mem_append.2 ⟨hnone, List.forall_mem_singleton.2 hregisters⟩)

theorem Tracks.past_concat (h : Tracks .fired since) (a : Action) :
    Tracks .fired (since ++ [a]) := by
  cases h with
  | past hb hregisters hshutdown =>
    rw [List.append_assoc, List.cons_append]
    exact .past hb hregisters hshutdown

theorem Tracks.register (h : g.Tracks since) (hregisters : a.registersRecord)
    (hshutdown : ¬ a.isShutdown) : g.arm.2.Tracks (since ++ [a]) := by
  cases g with
  | disarmed =>
    cases h with
    | idle hnone => exact .due (due_of_registersRecord hnone hregisters)
  | armed => exact .due ((h.armed_iff.1 rfl).concat hshutdown)
  | fired => exact h.past_concat a

theorem Tracks.shutdown (h : g.Tracks since) (hregisters : ¬ a.registersRecord)
    (hshutdown : a.isShutdown) : g.claim.2.Tracks (since ++ [a]) := by
  cases g with
  | disarmed => exact h.idle_concat hregisters
  | armed =>
    obtain ⟨b, hb, hregisters'⟩ := (h.armed_iff.1 rfl).registered
    exact .past hb hregisters' hshutdown
  | fired => exact h.past_concat a

theorem Tracks.other (h : g.Tracks since) (hregisters : ¬ a.registersRecord)
    (hshutdown : ¬ a.isShutdown) : g.Tracks (since ++ [a]) := by
  cases g with
  | disarmed => exact h.idle_concat hregisters
  | armed => exact .due ((h.armed_iff.1 rfl).concat hshutdown)
  | fired => exact h.past_concat a

theorem Tracks.gateAfter {actions : List Action} (h : g.Tracks (sinceReset actions)) (a : Action) :
    (a.gateAfter g).Tracks (sinceReset (actions ++ [a])) := by
  by_cases hreset : a.isReset
  · have hgate : a.gateAfter g = .disarmed := by
      cases a
      case reset => rfl
      all_goals cases hreset
    rw [sinceReset_concat_reset hreset, hgate]
    exact .idle fun b hb => absurd hb List.not_mem_nil
  · rw [sinceReset_concat hreset]
    cases a
    case registerData | registerDataWith => exact h.register rfl Bool.false_ne_true
    case registerNames | withSentinel | writeFile =>
      exact h.other Bool.false_ne_true Bool.false_ne_true
    case shutdown => exact h.shutdown Bool.false_ne_true rfl
    case reset => exact absurd rfl hreset

/-- After any operations, the gate tells what there was since the last reset. -/
theorem tracks_foldl (actions : List Action) :
    (actions.foldl Action.gateAfter .disarmed).Tracks (sinceReset actions) := by
  induction actions using List.reverseRecOn with
  | nil => exact .idle fun a ha => absurd ha List.not_mem_nil
  | append_singleton actions a ih =>
    rw [List.foldl_append]
    exact ih.gateAfter a

end Gate

namespace Session

/-- The operations of a run decide whether a shutdown dumps. -/
theorem gate_eq_armed_iff (width : Width) (ops : List Operation) :
    ((ofWidth width).runAll ops).gate = .armed ↔ Due (sinceReset (ops.map Operation.action)) := by
  rw [gate_runAll]
  exact (Gate.tracks_foldl _).armed_iff

/-- Whether or not dumps were made in between does not show in a session. -/
theorem runAll_filter_not_isWriteFile (s : Session) (ops : List Operation) :
    s.runAll (ops.filter fun op => !op.action.isWriteFile) = s.runAll ops := by
  induction ops generalizing s with
  | nil => rfl
  | cons op ops ih =>
    rw [List.filter_cons]
    split
    · exact ih (s.after op)
    · next hwrite =>
      obtain ⟨action, transport⟩ := op
      have hafter : s.after ⟨action, transport⟩ = s := by
        cases action
        case writeFile => rfl
        all_goals exact absurd rfl hwrite
      exact (ih s).trans (congrArg (·.runAll ops) hafter.symm)

theorem not_isReset_of_isShutdown {a : Action} (h : a.isShutdown) : ¬ a.isReset := by
  cases a
  case reset => cases h
  all_goals exact Bool.false_ne_true

/-- The gate was armed if a shutdown has dumped. -/
theorem armed_of_dumped {σ : Type} [Transport σ] {s : Session} {action : Action} {t : σ}
    {result : Except DumpError Summary} (hshutdown : action.isShutdown)
    (h : (s.perform action t).value.1 = .dumped result) : s.gate = .armed := by
  cases action
  case shutdown image =>
    by_contra hgate
    rw [perform_shutdown_of_not_armed hgate] at h
    cases h
  all_goals cases hshutdown

/-- The first shutdown after a registration of a record dumps, and no other one does until the next
reset, however the dump ended. Dumps in between leave no trace in the session. -/
theorem shutdown_dumps_once (width : Width) (ops : List Operation) :
    let s := (ofWidth width).runAll ops
    let since := sinceReset (ops.map Operation.action)
    (∀ {σ : Type} [Transport σ] (image : MemoryImage) (t : σ),
      let shutdown := s.perform (.shutdown image) t
      let dump := s.writeFile image t
      (Due since ∧ shutdown.value.1 = .dumped dump.value ∧ shutdown.calls = dump.calls ∧
          shutdown.transport = dump.transport) ∨
        (¬ Due since ∧ shutdown.value = (.notDumped, s) ∧ shutdown.calls = [] ∧
          shutdown.transport = t)) ∧
    (∀ before op later result, ops = before ++ op :: later → op.action.isShutdown →
      (((ofWidth width).runAll before).perform op.action op.transport).value.1 = .dumped result →
      (∀ o ∈ later, ¬ o.action.isReset) → ¬ Due since) ∧
    (∀ {σ : Type} [Transport σ] (image : MemoryImage) (t : σ),
      (s.perform (.writeFile image) t).value = (.dumped (s.writeFile image t).value, s)) ∧
    (ofWidth width).runAll (ops.filter fun op => !op.action.isWriteFile) = s := by
  intro s since
  refine ⟨?_, ?_, fun image t => rfl, runAll_filter_not_isWriteFile _ ops⟩
  · intro σ _ image t shutdown dump
    by_cases hdue : Due since
    · have hgate : s.gate = .armed := (gate_eq_armed_iff width ops).2 hdue
      obtain ⟨hvalue, hcalls, htransport⟩ := perform_shutdown_of_armed hgate image t
      exact .inl ⟨hdue, congrArg Prod.fst hvalue, hcalls, htransport⟩
    · have hgate : s.gate ≠ .armed := mt (gate_eq_armed_iff width ops).1 hdue
      have hnothing := perform_shutdown_of_not_armed hgate image t
      exact .inr ⟨hdue, congrArg Outcome.value hnothing, congrArg Outcome.calls hnothing,
        congrArg Outcome.transport hnothing⟩
  · intro before op later result hops hshutdown hdumped hreset
    have hgate := armed_of_dumped hshutdown hdumped
    obtain ⟨a, ha, hregisters⟩ := ((gate_eq_armed_iff width before).1 hgate).registered
    have hsince : since = sinceReset (before.map Operation.action) ++
        op.action :: later.map Operation.action := by
      have hstays : ∀ b ∈ op.action :: later.map Operation.action, ¬ b.isReset :=
        List.forall_mem_cons.2 ⟨not_isReset_of_isShutdown hshutdown, List.forall_mem_map.2 hreset⟩
      rw [← sinceReset_append hstays]
      change sinceReset (ops.map Operation.action) = _
      rw [hops, List.map_append, List.map_cons]
    rw [hsince]
    exact not_due_of_shutdown ha hregisters hshutdown

end Session

end RawProfile

import Mathlib.Data.List.Induction
import RawProfile.Proofs.Gate.Callers

/-!
# The gate fires once

What the gate answers in a step is told from the steps before it: whether one armed it
(`Scheduled`), and whether a firing call came after that (`Spent`). `Follows.step` is the invariant
of a step and `follows_run` that of a run, whatever the callers do and in whichever order they make
their steps. `FiresOnce` is what that comes to, and `fires_once` that it holds of every run after a
reset: one call arms the gate, and the first firing call after it is the only one that runs its
action.
-/

namespace RawProfile.Gate

variable {ι ρ : Type}

namespace Reply

def isArm : Reply ρ → Bool
  | .arm _ => true
  | _ => false

def isClaim : Reply ρ → Bool
  | .claim _ => true
  | _ => false

def isReturned : Reply ρ → Bool
  | .returned _ => true
  | _ => false

def arms : Reply ρ → Bool
  | .arm answer => answer
  | _ => false

/-- The step is that of a firing call which runs its action. -/
def wins : Reply ρ → Bool
  | .claim won => won
  | _ => false

/-- The reply is the one that the gate gives, and the gate after the step is the one that it
leaves. -/
def Moves (g g' : Gate) : Reply ρ → Prop
  | .arm answer => (answer, g') = g.arm
  | .isArmed answer => answer = g.isArmed ∧ g' = g
  | .hasFired answer => answer = g.hasFired ∧ g' = g
  | .claim won => (won, g') = g.claim
  | .returned _ => g' = g

end Reply

/-- What a step of a caller does to the gate, and to the actions that the caller is in. -/
theorem Caller.step_inv {c c' : Caller ρ} {g g' : Gate} {reply : Reply ρ}
    (h : c.step g = some (reply, g', c')) : reply.Moves g g' ∧
      (c'.firing.length + if reply.isReturned then 1 else 0) =
        c.firing.length + if reply.wins then 1 else 0 := by
  obtain ⟨program, firing⟩ := c
  cases program with
  | finish result =>
    cases firing with
    | nil => cases h
    | cons next firing =>
      cases h
      exact ⟨rfl, rfl⟩
  | arm next =>
    cases h
    exact ⟨rfl, rfl⟩
  | isArmed next =>
    cases h
    exact ⟨⟨rfl, rfl⟩, rfl⟩
  | hasFired next =>
    cases h
    exact ⟨⟨rfl, rfl⟩, rfl⟩
  | fire action next =>
    cases hclaim : g.claim with
    | mk won gate =>
      rw [Caller.step, hclaim] at h
      cases won with
      | false =>
        cases h
        exact ⟨hclaim.symm, rfl⟩
      | true =>
        cases h
        exact ⟨hclaim.symm, rfl⟩

theorem Caller.firing_of_returned {c c' : Caller ρ} {g g' : Gate} {x : ρ}
    (h : c.step g = some (.returned x, g', c')) : c.firing ≠ [] := by
  have hfiring : c'.firing.length + 1 = c.firing.length + 0 := (Caller.step_inv h).2
  exact List.length_pos_iff.1 (by omega)

/-! ## What the past says -/

def Scheduled (past : List (Reply ρ)) : Prop := ∃ r ∈ past, r.isArm

/-- Among the steps so far, a firing call came after one of `arm`. -/
def Spent (past : List (Reply ρ)) : Prop :=
  ∃ earlier r later, past = earlier ++ r :: later ∧ Scheduled earlier ∧ r.isClaim

/-- The reply is the one that goes with the steps before it. -/
def Reply.Fits (past : List (Reply ρ)) : Reply ρ → Prop
  | .arm answer => answer = true ↔ ¬ Scheduled past
  | .isArmed answer => answer = true ↔ Scheduled past ∧ ¬ Spent past
  | .hasFired answer => answer = true ↔ Spent past
  | .claim won => won = true ↔ Scheduled past ∧ ¬ Spent past
  | .returned _ => True

variable {past : List (Reply ρ)} {r : Reply ρ}

theorem not_scheduled_nil : ¬ Scheduled ([] : List (Reply ρ)) := by
  rintro ⟨r, hr, -⟩
  cases hr

theorem scheduled_concat : Scheduled (past ++ [r]) ↔ Scheduled past ∨ r.isArm := by
  simp [Scheduled, or_and_right, exists_or]

theorem not_spent_nil : ¬ Spent ([] : List (Reply ρ)) := by
  rintro ⟨earlier, r, later, h, -⟩
  cases earlier <;> cases h

theorem spent_concat : Spent (past ++ [r]) ↔ Spent past ∨ Scheduled past ∧ r.isClaim := by
  constructor
  · rintro ⟨earlier, c, later, h, hscheduled, hclaim⟩
    rcases List.eq_nil_or_concat later with rfl | ⟨later, last, rfl⟩
    · obtain ⟨rfl, hr⟩ := List.append_inj' h rfl
      cases hr
      exact .inr ⟨hscheduled, hclaim⟩
    · rw [List.concat_eq_append, ← List.cons_append, ← List.append_assoc] at h
      exact .inl ⟨earlier, c, later, (List.append_inj' h rfl).1, hscheduled, hclaim⟩
  · rintro (⟨earlier, c, later, rfl, hscheduled, hclaim⟩ | ⟨hscheduled, hclaim⟩)
    · exact ⟨earlier, c, later ++ [r], by simp, hscheduled, hclaim⟩
    · exact ⟨past, r, [], rfl, hscheduled, hclaim⟩

theorem Scheduled.append (h : Scheduled past) (later : List (Reply ρ)) :
    Scheduled (past ++ later) := by
  obtain ⟨r, hr, harm⟩ := h
  exact ⟨r, List.mem_append_left _ hr, harm⟩

theorem Spent.scheduled (h : Spent past) : Scheduled past := by
  obtain ⟨earlier, r, later, rfl, hscheduled, -⟩ := h
  exact hscheduled.append _

/-- The gate stands as the steps so far say, and it has been armed and claimed at most once. -/
structure Follows (g : Gate) (past : List (Reply ρ)) : Prop where
  disarmed : g = .disarmed ↔ ¬ Scheduled past
  fired : g = .fired ↔ Spent past
  arms : past.countP Reply.arms = if g = .disarmed then 0 else 1
  wins : past.countP Reply.wins = if g = .fired then 1 else 0

namespace Follows

variable {g g' : Gate}

theorem nil : Follows .disarmed ([] : List (Reply ρ)) :=
  ⟨iff_of_true rfl not_scheduled_nil, iff_of_false (by simp) not_spent_nil, rfl, rfl⟩

theorem scheduled (h : Follows g past) : Scheduled past ↔ g ≠ .disarmed := by
  rw [Ne, h.disarmed, Classical.not_not]

theorem armed (h : Follows g past) : g = .armed ↔ Scheduled past ∧ ¬ Spent past := by
  rw [h.scheduled, ← h.fired]
  cases g <;> simp

/-- A step that neither arms nor claims is not seen later. -/
theorem quiet (h : Follows g past) (harm : r.isArm = false) (hclaim : r.isClaim = false) :
    Follows g (past ++ [r]) := by
  have harms : r.arms = false := by cases r <;> simp_all [Reply.isArm, Reply.arms]
  have hwins : r.wins = false := by cases r <;> simp_all [Reply.isClaim, Reply.wins]
  constructor
  · simp [scheduled_concat, harm, h.disarmed]
  · simp [spent_concat, hclaim, h.fired]
  · simp [harms, h.arms]
  · simp [hwins, h.wins]

theorem step (h : Follows g past) (hr : r.Moves g g') : Follows g' (past ++ [r]) := by
  cases r with
  | arm answer =>
    have hspent : Spent (past ++ [.arm answer]) ↔ Spent past := by
      simp [spent_concat, Reply.isClaim]
    have hscheduled : Scheduled (past ++ [.arm answer]) := scheduled_concat.2 (.inr rfl)
    cases g <;> cases hr
    all_goals
      refine ⟨iff_of_false nofun (not_not_intro hscheduled), ?_, ?_, ?_⟩
      · simp [hspent, ← h.fired]
      · simp [Reply.arms, h.arms]
      · simp [Reply.wins, h.wins]
  | claim won =>
    have hscheduled : Scheduled (past ++ [.claim won]) ↔ Scheduled past := by
      simp [scheduled_concat, Reply.isArm]
    have hspent : Spent (past ++ [.claim won]) ↔ Scheduled past := by
      simpa [spent_concat, Reply.isClaim] using Spent.scheduled
    cases g <;> cases hr
    all_goals
      refine ⟨?_, ?_, ?_, ?_⟩
      · simp [hscheduled, h.scheduled]
      · simp [hspent, h.scheduled]
      · simp [Reply.arms, h.arms]
      · simp [Reply.wins, h.wins]
  | isArmed answer =>
    obtain ⟨-, rfl⟩ := hr
    exact h.quiet rfl rfl
  | hasFired answer =>
    obtain ⟨-, rfl⟩ := hr
    exact h.quiet rfl rfl
  | returned result =>
    cases hr
    exact h.quiet rfl rfl

theorem fits (h : Follows g past) (hr : r.Moves g g') : r.Fits past := by
  cases r with
  | arm answer =>
    rw [Reply.Fits, ← h.disarmed]
    cases g <;> cases hr <;> simp
  | isArmed answer =>
    obtain ⟨rfl, -⟩ := hr
    rw [Reply.Fits, ← h.armed, isArmed, beq_iff_eq]
  | hasFired answer =>
    obtain ⟨rfl, -⟩ := hr
    rw [Reply.Fits, ← h.fired, hasFired, beq_iff_eq]
  | claim won =>
    rw [Reply.Fits, ← h.armed]
    cases g <;> cases hr <;> simp
  | returned result => trivial

end Follows

/-! ## Runs -/

/-- The reply that is given once a firing call has claimed the run. -/
def Reply.Closed : Reply ρ → Prop
  | .arm answer => answer = false
  | .isArmed answer => answer = false
  | .hasFired answer => answer = true
  | .claim won => won = false
  | .returned _ => True

theorem Reply.Fits.closed (h : r.Fits past) (hspent : Spent past) : r.Closed := by
  cases r with
  | arm answer => exact Bool.eq_false_iff.2 fun ha => h.1 ha hspent.scheduled
  | isArmed answer => exact Bool.eq_false_iff.2 fun ha => (h.1 ha).2 hspent
  | hasFired answer => exact h.2 hspent
  | claim won => exact Bool.eq_false_iff.2 fun ha => (h.1 ha).2 hspent
  | returned result => trivial

namespace Crowd

variable [DecidableEq ι] {s : Crowd ι ρ}

theorem follows_run (schedule : List ι) (h : Follows s.gate past) :
    Follows (s.run schedule).2.gate (past ++ (s.run schedule).1.map Prod.snd) := by
  induction schedule generalizing s past with
  | nil => simpa [run] using h
  | cons i schedule ih =>
    cases hstep : (s.callers i).step s.gate with
    | none =>
      rw [run_cons_of_done hstep]
      exact ih h
    | some next =>
      obtain ⟨reply, gate, caller⟩ := next
      rw [run_cons_of_step hstep, List.map_cons, List.append_cons]
      exact ih (s := s.put i gate caller) (h.step (Caller.step_inv hstep).1)

def repliesTo (i : ι) (replies : List (ι × Reply ρ)) : List (Reply ρ) :=
  (replies.filter (·.1 = i)).map Prod.snd

theorem repliesTo_cons_self (i : ι) (reply : Reply ρ) (replies : List (ι × Reply ρ)) :
    repliesTo i ((i, reply) :: replies) = reply :: repliesTo i replies := by
  simp [repliesTo]

theorem repliesTo_cons_of_ne {i j : ι} (h : j ≠ i) (reply : Reply ρ)
    (replies : List (ι × Reply ρ)) :
    repliesTo i ((j, reply) :: replies) = repliesTo i replies := by
  simp [repliesTo, h]

theorem mem_repliesTo {i : ι} {reply : Reply ρ} {replies : List (ι × Reply ρ)} :
    reply ∈ repliesTo i replies ↔ (i, reply) ∈ replies := by
  simp [repliesTo]

theorem firing_run (s : Crowd ι ρ) (schedule : List ι) (i : ι) :
    ((s.run schedule).2.callers i).firing.length +
        (repliesTo i (s.run schedule).1).countP Reply.isReturned =
      (s.callers i).firing.length + (repliesTo i (s.run schedule).1).countP Reply.wins := by
  induction schedule generalizing s with
  | nil => rfl
  | cons j schedule ih =>
    cases hstep : (s.callers j).step s.gate with
    | none =>
      rw [run_cons_of_done hstep]
      exact ih s
    | some next =>
      obtain ⟨reply, gate, caller⟩ := next
      rw [run_cons_of_step hstep]
      have hrest := ih (s.put j gate caller)
      by_cases hj : j = i
      · subst hj
        have hfirst := (Caller.step_inv hstep).2
        rw [callers_put_self] at hrest
        simp only [repliesTo_cons_self, List.countP_cons]
        omega
      · rw [callers_put_of_ne (Ne.symm hj)] at hrest
        rw [repliesTo_cons_of_ne hj]
        exact hrest

theorem countP_repliesTo_le (i : ι) (p : Reply ρ → Bool) (replies : List (ι × Reply ρ)) :
    (repliesTo i replies).countP p ≤ (replies.map Prod.snd).countP p :=
  List.Sublist.countP_le (List.filter_sublist.map _)

/-- By these replies, callers have come this far since a reset. -/
def Reached (replies : List (ι × Reply ρ)) (s : Crowd ι ρ) : Prop :=
  ∃ g programs schedule, (afterReset g programs).run schedule = (replies, s)

namespace Reached

variable {replies before after : List (ι × Reply ρ)} {i j : ι} {r : Reply ρ}

theorem follows (h : Reached replies s) : Follows s.gate (replies.map Prod.snd) := by
  obtain ⟨g, programs, schedule, hrun⟩ := h
  have hfollows := follows_run schedule (s := afterReset g programs) .nil
  rw [hrun] at hfollows
  exact hfollows

theorem firing (h : Reached replies s) (i : ι) :
    (s.callers i).firing.length + (repliesTo i replies).countP Reply.isReturned =
      (repliesTo i replies).countP Reply.wins := by
  obtain ⟨g, programs, schedule, hrun⟩ := h
  have hfiring := firing_run (afterReset g programs) schedule i
  rw [hrun] at hfiring
  exact hfiring.trans (Nat.zero_add _)

/-- Before a reply, a step was made from where the replies before it had led. -/
theorem exists_step (h : Reached (before ++ (i, r) :: after) s) :
    ∃ s' gate caller, Reached before s' ∧ (s'.callers i).step s'.gate = some (r, gate, caller) := by
  obtain ⟨g, programs, schedule, hrun⟩ := h
  obtain ⟨earlier, gate, caller, rfl, hstep⟩ := exists_step_of_run (congrArg Prod.fst hrun)
  exact ⟨_, gate, caller, ⟨g, programs, earlier, rfl⟩, hstep⟩

theorem fits (h : Reached (before ++ (i, r) :: after) s) : r.Fits (before.map Prod.snd) := by
  obtain ⟨s', gate, caller, h', hstep⟩ := h.exists_step
  exact h'.follows.fits (Caller.step_inv hstep).1

theorem countP_arms (h : Reached replies s) : replies.countP (·.2.arms) ≤ 1 := by
  have harms := h.follows.arms
  rw [List.countP_map] at harms
  exact Nat.le_trans (Nat.le_of_eq harms) (by split <;> omega)

theorem countP_wins (h : Reached replies s) : replies.countP (·.2.wins) ≤ 1 := by
  have hwins := h.follows.wins
  rw [List.countP_map] at hwins
  exact Nat.le_trans (Nat.le_of_eq hwins) (by split <;> omega)

theorem claim_unique (h : Reached replies s) (hi : (i, .claim true) ∈ replies)
    (hj : (j, .claim true) ∈ replies) : i = j := by
  have hcount := h.countP_wins
  rw [List.countP_eq_length_filter] at hcount
  have hi := List.mem_filter (p := (·.2.wins)).2 ⟨hi, rfl⟩
  have hj := List.mem_filter (p := (·.2.wins)).2 ⟨hj, rfl⟩
  obtain ⟨e, he⟩ := List.length_eq_one_iff.1 (Nat.le_antisymm hcount (List.length_pos_of_mem hi))
  rw [he, List.mem_singleton] at hi hj
  exact congrArg Prod.fst (hi.trans hj.symm)

/-- The gate is spent from the winning call on. -/
theorem spent (h : Reached (before ++ (i, .claim true) :: after) s) :
    Spent ((before ++ (i, .claim true) :: after).map Prod.snd) :=
  ⟨before.map Prod.snd, .claim true, after.map Prod.snd, by simp, (h.fits.1 rfl).1, rfl⟩

theorem fired (h : Reached replies s) (hi : (i, .claim true) ∈ replies) : s.gate = .fired := by
  obtain ⟨before, after, rfl⟩ := List.append_of_mem hi
  exact h.follows.fired.2 h.spent

theorem closed (h : Reached (before ++ (i, .claim true) :: after) s) (hr : (j, r) ∈ after) :
    r.Closed := by
  obtain ⟨between, later, rfl⟩ := List.append_of_mem hr
  rw [← List.cons_append, ← List.append_assoc] at h
  obtain ⟨s', gate, caller, h', -⟩ := h.exists_step
  exact h.fits.closed h'.spent

/-- A caller that is in an action has won. -/
theorem claim_mem_of_firing (h : Reached replies s) (hi : (s.callers i).firing ≠ []) :
    (i, .claim true) ∈ replies := by
  have hbalance := h.firing i
  have hpos := List.length_pos_iff.2 hi
  obtain ⟨reply, hreply, hwins⟩ := List.countP_pos_iff.1
    (show 0 < (repliesTo i replies).countP Reply.wins by omega)
  cases reply <;> cases hwins
  exact mem_repliesTo.1 hreply

theorem claim_mem_of_returned {x : ρ} (h : Reached (before ++ (i, .returned x) :: after) s) :
    (i, .claim true) ∈ before := by
  obtain ⟨s', gate, caller, h', hstep⟩ := h.exists_step
  exact h'.claim_mem_of_firing (Caller.firing_of_returned hstep)

theorem not_returned_of_firing {x : ρ} (h : Reached replies s) (hi : (s.callers i).firing ≠ []) :
    (i, .returned x) ∉ replies := by
  intro hx
  have hbalance := h.firing i
  have hpos := List.length_pos_iff.2 hi
  have hreturned : 0 < (repliesTo i replies).countP Reply.isReturned :=
    List.countP_pos_iff.2 ⟨_, mem_repliesTo.2 hx, rfl⟩
  have hwins := countP_repliesTo_le i Reply.wins replies
  rw [List.countP_map] at hwins
  have := Nat.le_trans hwins h.countP_wins
  omega

theorem not_returned_before {x y : ρ} (h : Reached (before ++ (i, .returned x) :: after) s) :
    (j, .returned y) ∉ before := by
  intro hj
  obtain ⟨s', gate, caller, h', hstep⟩ := h.exists_step
  have hfiring := Caller.firing_of_returned hstep
  obtain ⟨earlier, later, rfl⟩ := List.append_of_mem hj
  have hclaim : (j, .claim true) ∈ earlier ++ (j, .returned y) :: later :=
    List.mem_append_left _ h'.claim_mem_of_returned
  obtain rfl := h'.claim_unique (h'.claim_mem_of_firing hfiring) hclaim
  exact h'.not_returned_of_firing hfiring hj

/-- As long as nobody calls `arm`, the gate is disarmed and no claim succeeds. -/
theorem disarmed (h : Reached replies s) (harm : ∀ e ∈ replies, e.2.isArm = false) :
    s.gate = .disarmed ∧ ∀ e ∈ replies, e.2.wins = false := by
  have hunscheduled : ¬ Scheduled (replies.map Prod.snd) := by
    rintro ⟨r, hr, hrArm⟩
    obtain ⟨e, he, rfl⟩ := List.mem_map.1 hr
    exact Bool.false_ne_true ((harm e he).symm.trans hrArm)
  have hdisarmed := h.follows.disarmed.2 hunscheduled
  have hwins := h.follows.wins
  rw [hdisarmed, if_neg nofun, List.countP_map] at hwins
  exact ⟨hdisarmed, fun e he => Bool.eq_false_iff.2 (List.countP_eq_zero.1 hwins e he)⟩

end Reached

/-- What holds of the replies since a reset, in the order in which they were given, and of the
callers where they have come to. -/
structure FiresOnce (replies : List (ι × Reply ρ)) (s : Crowd ι ρ) : Prop where
  /-- Every answer is the one that goes with the steps before it. So the call that wins is the first
  firing call after the first of `arm`. -/
  fits : ∀ before i r after, replies = before ++ (i, r) :: after → r.Fits (before.map Prod.snd)
  arms : replies.countP (·.2.arms) ≤ 1
  wins : replies.countP (·.2.wins) ≤ 1
  /-- From the winning call on, the gate is closed to everyone, the running action included. -/
  closed : ∀ before i after, replies = before ++ (i, .claim true) :: after →
    s.gate = .fired ∧ ∀ e ∈ after, e.2.Closed
  running : ∀ i, (s.callers i).firing ≠ [] → (i, .claim true) ∈ replies
  /-- A firing call returns a result only if it has won, and only one does. -/
  returned : ∀ before i x after, replies = before ++ (i, .returned x) :: after →
    (i, .claim true) ∈ before ∧ ∀ j y, (j, .returned y) ∉ before
  /-- If there was no call of `arm`, the gate is as after the reset and no action was run. -/
  unarmed : (∀ e ∈ replies, e.2.isArm = false) →
    s.gate = .disarmed ∧ (∀ e ∈ replies, e.2.wins = false) ∧ ∀ i, (s.callers i).firing = []

theorem Reached.firesOnce {replies : List (ι × Reply ρ)} (h : Reached replies s) :
    FiresOnce replies s where
  fits := by
    rintro before i r after rfl
    exact h.fits
  arms := h.countP_arms
  wins := h.countP_wins
  closed := by
    rintro before i after rfl
    exact ⟨h.fired (List.mem_append_right _ List.mem_cons_self), fun e he => h.closed he⟩
  running i hi := h.claim_mem_of_firing hi
  returned := by
    rintro before i x after rfl
    exact ⟨h.claim_mem_of_returned, fun j y => h.not_returned_before⟩
  unarmed := by
    intro harm
    obtain ⟨hdisarmed, hwins⟩ := h.disarmed harm
    refine ⟨hdisarmed, hwins, fun i => Classical.byContradiction fun hi => ?_⟩
    exact Bool.noConfusion (hwins _ (h.claim_mem_of_firing hi))

/-- The gate fires at most once between two resets, whoever calls it and in whichever order the steps
are made, and also when the action that runs uses the gate itself. The steps are those of the calls:
a caller that is left alone ends as if each firing call had run its action in one go. -/
theorem fires_once (g : Gate) (programs : ι → Program ρ) (schedule : List ι) :
    FiresOnce ((afterReset g programs).run schedule).1 ((afterReset g programs).run schedule).2 ∧
      ∀ i, Leads i (afterReset g programs) ((afterReset g programs).put i
        ((programs i).run g.reset).2 { program := .finish ((programs i).run g.reset).1 }) := by
  have h : Reached ((afterReset g programs).run schedule).1
      ((afterReset g programs).run schedule).2 := ⟨g, programs, schedule, rfl⟩
  exact ⟨h.firesOnce, leads_afterReset g programs⟩

/-- One caller arms the gate and fires it, with an action that fires it again. The other fires it
twice: too early, and while the action runs. -/
example :
    let programs : Bool → Program Nat
      | true => .arm fun _ => .fire (.fire (.finish 0) fun _ => .finish 1) fun _ => .finish 2
      | false => .fire (.finish 3) fun _ => .fire (.finish 3) fun _ => .finish 4
    ((afterReset .fired programs).run [false, true, true, false, true, true, true]).1 =
      [(false, .claim false), (true, .arm true), (true, .claim true), (false, .claim false),
        (true, .claim false), (true, .returned 1)] := rfl

end Crowd

end RawProfile.Gate

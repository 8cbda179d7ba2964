import Mathlib.Logic.Function.Basic
import RawProfile.Gate

/-!
# Callers of the gate

Any number of callers use one gate. What a caller does is a `Program`; the action of a firing call
is a program too, so it can use the gate again while it runs. `Crowd.run` lets the callers make
steps in any order: one step is one atomic operation on the gate, and a firing call is the step that
claims the run, later followed by the steps of its action. `leads_run` says that a caller who is
left alone does what `Gate.fire` and the other operations do in one go.
-/

namespace RawProfile.Gate

/-- What a caller does: one call after the other, chosen by the answers so far, until it ends in a
result, which may as well be an error. -/
inductive Program (ρ : Type) where
  | finish (result : ρ)
  | arm (next : Bool → Program ρ)
  | isArmed (next : Bool → Program ρ)
  | hasFired (next : Bool → Program ρ)
  /-- The call goes on with the result of the action, or with none if it was not run. -/
  | fire (action : Program ρ) (next : Option ρ → Program ρ)

def Program.run {ρ : Type} : Program ρ → Gate → ρ × Gate
  | .finish result, g => (result, g)
  | .arm next, g => (next g.arm.1).run g.arm.2
  | .isArmed next, g => (next g.isArmed).run g
  | .hasFired next, g => (next g.hasFired).run g
  | .fire action next, g => (next (g.fire action.run).1).run (g.fire action.run).2

/-- A caller in the middle of its work. -/
structure Caller (ρ : Type) where
  program : Program ρ
  /-- What comes after each firing call of which the action is running, the innermost first. -/
  firing : List (Option ρ → Program ρ) := []

inductive Reply (ρ : Type) where
  | arm (answer : Bool)
  | isArmed (answer : Bool)
  | hasFired (answer : Bool)
  /-- A firing call runs its action from here on if it won, and has returned nothing if not. -/
  | claim (won : Bool)
  | returned (result : ρ)

variable {ι ρ : Type}

/-- The next step of a caller: the reply, the gate and the caller after it. -/
def Caller.step (c : Caller ρ) (g : Gate) : Option (Reply ρ × Gate × Caller ρ) :=
  match c.program with
  | .finish result =>
    match c.firing with
    | [] => none
    | next :: firing => some (.returned result, g, ⟨next (some result), firing⟩)
  | .arm next => some (.arm g.arm.1, g.arm.2, { c with program := next g.arm.1 })
  | .isArmed next => some (.isArmed g.isArmed, g, { c with program := next g.isArmed })
  | .hasFired next => some (.hasFired g.hasFired, g, { c with program := next g.hasFired })
  | .fire action next =>
    match g.claim with
    | (true, g) => some (.claim true, g, ⟨action, next :: c.firing⟩)
    | (false, g) => some (.claim false, g, { c with program := next none })

structure Crowd (ι ρ : Type) where
  gate : Gate
  callers : ι → Caller ρ

namespace Crowd

/-- Callers that are about to begin. A reset needs the gate for itself, so there is no call under
way. -/
def afterReset (g : Gate) (programs : ι → Program ρ) : Crowd ι ρ :=
  ⟨g.reset, fun i => { program := programs i }⟩

variable [DecidableEq ι]

def put (s : Crowd ι ρ) (i : ι) (gate : Gate) (caller : Caller ρ) : Crowd ι ρ :=
  ⟨gate, Function.update s.callers i caller⟩

/-- Lets callers make a step each, in the given order, and collects the replies. A caller that is
done makes none. -/
def run (s : Crowd ι ρ) : List ι → List (ι × Reply ρ) × Crowd ι ρ
  | [] => ([], s)
  | i :: schedule =>
    match (s.callers i).step s.gate with
    | none => s.run schedule
    | some (reply, gate, caller) =>
      let (replies, s) := (s.put i gate caller).run schedule
      ((i, reply) :: replies, s)

variable {s s' : Crowd ι ρ} {i : ι} {reply : Reply ρ} {gate gate' : Gate}
  {caller caller' : Caller ρ} {schedule : List ι}

@[simp] theorem callers_put_self : (s.put i gate caller).callers i = caller :=
  Function.update_self ..

theorem callers_put_of_ne {j : ι} (h : j ≠ i) :
    (s.put i gate caller).callers j = s.callers j :=
  Function.update_of_ne h ..

@[simp] theorem put_put : (s.put i gate caller).put i gate' caller' = s.put i gate' caller' :=
  congrArg (Crowd.mk gate') (Function.update_idem ..)

theorem put_self (s : Crowd ι ρ) (i : ι) : s.put i s.gate (s.callers i) = s :=
  congrArg (Crowd.mk s.gate) (Function.update_eq_self ..)

theorem run_cons_of_done (h : (s.callers i).step s.gate = none) :
    s.run (i :: schedule) = s.run schedule := by
  rw [run, h]

theorem run_cons_of_step (h : (s.callers i).step s.gate = some (reply, gate, caller)) :
    s.run (i :: schedule) = ((i, reply) :: ((s.put i gate caller).run schedule).1,
      ((s.put i gate caller).run schedule).2) := by
  rw [run, h]

/-- Every reply of a run was given in a step to which a shorter run had come. -/
theorem exists_step_of_run {before after : List (ι × Reply ρ)}
    (h : (s.run schedule).1 = before ++ (i, reply) :: after) :
    ∃ earlier gate caller, (s.run earlier).1 = before ∧
      ((s.run earlier).2.callers i).step (s.run earlier).2.gate = some (reply, gate, caller) := by
  induction schedule generalizing s before with
  | nil =>
    cases before <;> cases h
  | cons j schedule ih =>
    cases hstep : (s.callers j).step s.gate with
    | none =>
      rw [run_cons_of_done hstep] at h
      exact ih h
    | some next =>
      obtain ⟨reply', gate', caller'⟩ := next
      rw [run_cons_of_step hstep] at h
      cases before with
      | nil =>
        obtain ⟨hfirst, -⟩ := List.cons.inj h
        cases hfirst
        exact ⟨[], gate', caller', rfl, hstep⟩
      | cons e before =>
        obtain ⟨hfirst, hrest⟩ := List.cons.inj h
        obtain ⟨earlier, gate, caller, hreplies, hlast⟩ := ih hrest
        refine ⟨j :: earlier, gate, caller, ?_, ?_⟩
        · rw [run_cons_of_step hstep, hreplies, hfirst]
        · rw [run_cons_of_step hstep]
          exact hlast

/-! ## A caller alone -/

theorem run_append (s : Crowd ι ρ) (schedule rest : List ι) :
    (s.run (schedule ++ rest)).2 = ((s.run schedule).2.run rest).2 := by
  induction schedule generalizing s with
  | nil => rfl
  | cons j schedule ih =>
    rw [List.cons_append]
    cases hstep : (s.callers j).step s.gate with
    | none => rw [run_cons_of_done hstep, run_cons_of_done hstep, ih]
    | some next => rw [run_cons_of_step hstep, run_cons_of_step hstep, ih]

/-- Some steps of one caller lead from one state to another. -/
def Leads (i : ι) (s s' : Crowd ι ρ) : Prop := ∃ n, (s.run (List.replicate n i)).2 = s'

theorem Leads.refl (i : ι) (s : Crowd ι ρ) : Leads i s s := ⟨0, rfl⟩

theorem Leads.trans {s'' : Crowd ι ρ} (h : Leads i s s') (h' : Leads i s' s'') :
    Leads i s s'' := by
  obtain ⟨m, rfl⟩ := h
  obtain ⟨n, rfl⟩ := h'
  refine ⟨m + n, ?_⟩
  rw [← List.replicate_append_replicate, run_append]

theorem Leads.step (hstep : caller.step gate = some (reply, gate', caller'))
    (h : Leads i (s.put i gate' caller') s') : Leads i (s.put i gate caller) s' := by
  obtain ⟨n, hn⟩ := h
  have hfirst : ((s.put i gate caller).callers i).step (s.put i gate caller).gate =
      some (reply, gate', caller') := by
    rw [callers_put_self]
    exact hstep
  refine ⟨n + 1, ?_⟩
  rw [List.replicate_succ, run_cons_of_step hfirst, put_put]
  exact hn

theorem fire_of_claim {g g' : Gate} (h : g.claim = (true, g')) (action : Gate → ρ × Gate) :
    g.fire action = (some (action g').1, (action g').2) := by
  rw [fire, h]

theorem fire_of_not_claim {g g' : Gate} (h : g.claim = (false, g')) (action : Gate → ρ × Gate) :
    g.fire action = (none, g') := by
  rw [fire, h]

/-- A caller that is left alone comes to the end of its program, as if every firing call had run its
action in one go. -/
theorem leads_run (s : Crowd ι ρ) (i : ι) (p : Program ρ) (firing : List (Option ρ → Program ρ))
    (g : Gate) :
    Leads i (s.put i g ⟨p, firing⟩) (s.put i (p.run g).2 ⟨.finish (p.run g).1, firing⟩) := by
  induction p generalizing firing g with
  | finish result => exact .refl ..
  | arm next ih => exact .step rfl (ih _ firing _)
  | isArmed next ih => exact .step rfl (ih _ firing g)
  | hasFired next ih => exact .step rfl (ih _ firing g)
  | fire action next ihAction ihNext =>
    rw [Program.run]
    cases hclaim : g.claim with
    | mk won g' =>
      cases won with
      | false =>
        rw [fire_of_not_claim hclaim]
        have hrefused : (⟨.fire action next, firing⟩ : Caller ρ).step g =
            some (.claim false, g', ⟨next none, firing⟩) := by
          rw [Caller.step, hclaim]
        exact .step hrefused (ihNext none firing g')
      | true =>
        rw [fire_of_claim hclaim]
        have hclaimed : (⟨.fire action next, firing⟩ : Caller ρ).step g =
            some (.claim true, g', ⟨action, next :: firing⟩) := by
          rw [Caller.step, hclaim]
        exact .step hclaimed ((ihAction (next :: firing) g').trans
          (.step rfl (ihNext (some (action.run g').1) firing _)))

theorem leads_afterReset (g : Gate) (programs : ι → Program ρ) (i : ι) :
    Leads i (afterReset g programs) ((afterReset g programs).put i ((programs i).run g.reset).2
      { program := .finish ((programs i).run g.reset).1 }) := by
  have hstart : (afterReset g programs).put i g.reset { program := programs i } =
      afterReset g programs := put_self _ i
  have hrun := leads_run (afterReset g programs) i (programs i) [] g.reset
  rw [hstart] at hrun
  exact hrun

end Crowd

end RawProfile.Gate

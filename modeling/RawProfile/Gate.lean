/-!
# The gate

The gate lets the dump at shutdown run at most once. Registration arms it, the first shutdown after
that claims the run, and a claimed gate stays claimed until it is reset. Each operation is one
atomic step, so any interleaving of callers is a sequence of these steps.
-/

namespace RawProfile

/-- Whether the dump at shutdown is still to be scheduled, scheduled, or claimed. -/
inductive Gate where
  | disarmed
  | armed
  | fired
  deriving DecidableEq, Repr

namespace Gate

/-- Schedules the dump, and says whether this was the step that did. -/
def arm : Gate → Bool × Gate
  | .disarmed => (true, .armed)
  | g => (false, g)

def isArmed (g : Gate) : Bool := g == .armed

def hasFired (g : Gate) : Bool := g == .fired

/-- Claims the one run of the dump, and says whether this step got it. -/
def claim : Gate → Bool × Gate
  | .armed => (true, .fired)
  | g => (false, g)

/-- Runs an action if the run can be claimed. The action is given the gate as it finds it, already
fired, and returns it as it leaves it. -/
def fire {α : Type} (g : Gate) (action : Gate → α × Gate) : Option α × Gate :=
  match g.claim with
  | (true, g) =>
    let (a, g) := action g
    (some a, g)
  | (false, g) => (none, g)

def reset (_ : Gate) : Gate := .disarmed

end Gate

end RawProfile

import Mathlib.Data.List.Perm.Basic
import RawProfile.Proofs.Registry.Roster

/-!
# Registration in any order

A registration adds spans to those of the registry (`enter_eq`). Additions commute, and one that is
repeated shows in the count alone (`add_add_comm`, `uncounted_add_add`). `uncounted_enterAll_eq` is
the consequence: which registrations were made decides the registry up to its count, not their order
nor how often they were made.
-/

namespace RawProfile

section Fold

variable {α β : Type} {f : β → α → β} {xs ys : List α} {x : α}

/-- Where steps commute, any of them can be taken last. -/
theorem foldl_middle (hcomm : ∀ b x y, f (f b x) y = f (f b y) x) (before after : List α) (x : α)
    (b : β) : (before ++ x :: after).foldl f b = f ((before ++ after).foldl f b) x := by
  have hperm : (before ++ x :: after).Perm (before ++ after ++ [x]) :=
    List.perm_middle.trans (List.perm_append_singleton x _).symm
  rw [hperm.foldl_eq' (fun x _ y _ z => hcomm z x y) b, List.foldl_append]
  rfl

variable (hcomm : ∀ b x y, f (f b x) y = f (f b y) x) (hself : ∀ b x, f (f b x) x = f b x)

include hcomm hself

theorem foldl_of_mem (hx : x ∈ xs) (b : β) : f (xs.foldl f b) x = xs.foldl f b := by
  obtain ⟨before, after, rfl⟩ := List.append_of_mem hx
  rw [foldl_middle hcomm, hself]

theorem foldl_append_of_subset (h : ∀ y ∈ ys, y ∈ xs) (b : β) :
    (xs ++ ys).foldl f b = xs.foldl f b := by
  induction ys with
  | nil => rw [List.append_nil]
  | cons y ys ih =>
    obtain ⟨hy, hys⟩ := List.forall_mem_cons.1 h
    rw [foldl_middle hcomm, ih hys, foldl_of_mem hcomm hself hy]

/-- Steps that commute, and that change nothing when they are repeated, lead to a state that depends
only on which steps were taken. -/
theorem foldl_eq_of_mem_iff (h : ∀ x, x ∈ xs ↔ x ∈ ys) (b : β) : xs.foldl f b = ys.foldl f b :=
  calc xs.foldl f b
      = (xs ++ ys).foldl f b :=
        (foldl_append_of_subset hcomm hself (fun x hx => (h x).2 hx) b).symm
    _ = (ys ++ xs).foldl f b :=
        List.perm_append_comm.foldl_eq' (fun x _ y _ z => hcomm z x y) b
    _ = ys.foldl f b := foldl_append_of_subset hcomm hself (fun x hx => (h x).1 hx) b

end Fold

/-- A registration of a record or of a blob of names. -/
inductive Entry where
  | record (site : RecordSite)
  | names (blob : Blob)
  deriving DecidableEq, Repr

/-- What a registration adds to the spans of a registry and to its count. -/
structure Addition where
  data : Option Span := none
  counters : Option Span := none
  names : Option Span := none
  records : Nat := 0

/-- What an entry adds, given the sentinel and the size of records: nothing, at the sentinel. -/
def Entry.addition (sentinel : Option UInt64) (recordSize : UInt64) : Entry → Addition
  | .record site =>
    if sentinel = some site.address then {}
    else {
      data := some (.ofLength site.address recordSize)
      counters := some site.counters
      records := 1 }
  | .names blob => { names := some (.ofLength blob.start blob.length) }

namespace Registry

def enter (r : Registry) : Entry → Registry
  | .record site => (r.registerData site).value.2
  | .names blob => (r.registerNames blob.start blob.length).value

def enterAll (r : Registry) (es : List Entry) : Registry := es.foldl enter r

/-- The registry without the number of its records. -/
def uncounted (r : Registry) : Registry := { r with registered := 0 }

@[simp] theorem extents_uncounted (r : Registry) : r.uncounted.extents = r.extents := rfl

@[simp] theorem recordSize_uncounted (r : Registry) : r.uncounted.recordSize = r.recordSize := rfl

/-! ## Registering as adding spans -/

/-- The span of a section after another was added, if there is one. -/
def widenBy (seen : Option Span) : Option Span → Option Span
  | none => seen
  | some s => widen seen s

theorem widenBy_comm (seen s t : Option Span) :
    widenBy (widenBy seen s) t = widenBy (widenBy seen t) s := by
  cases s with
  | none => rfl
  | some s =>
    cases t with
    | none => rfl
    | some t =>
      refine congrArg some ?_
      cases seen with
      | none => exact Span.hull_comm s t
      | some u =>
        change (u.hull s).hull t = (u.hull t).hull s
        rw [Span.hull_assoc, Span.hull_comm s t, Span.hull_assoc]

theorem widenBy_self (seen s : Option Span) : widenBy (widenBy seen s) s = widenBy seen s := by
  cases s with
  | none => rfl
  | some s =>
    refine congrArg some ?_
    cases seen with
    | none => exact Span.hull_self s
    | some u =>
      change (u.hull s).hull s = u.hull s
      rw [Span.hull_assoc, Span.hull_self]

def add (r : Registry) (a : Addition) : Registry :=
  { r with
    data := widenBy r.data a.data
    counters := widenBy r.counters a.counters
    names := widenBy r.names a.names
    registered := r.registered + a.records }

theorem add_add_comm (r : Registry) (a b : Addition) : (r.add a).add b = (r.add b).add a := by
  simp only [add, widenBy_comm _ a.data, widenBy_comm _ a.counters, widenBy_comm _ a.names,
    Nat.add_right_comm _ a.records]

theorem uncounted_add_add (r : Registry) (a : Addition) :
    ((r.add a).add a).uncounted = (r.add a).uncounted := by
  simp only [uncounted, add, widenBy_self]

theorem uncounted_add (r : Registry) (a : Addition) :
    (r.uncounted.add a).uncounted = (r.add a).uncounted := rfl

theorem enter_eq (r : Registry) (e : Entry) :
    r.enter e = r.add (e.addition r.sentinel r.recordSize) := by
  cases e with
  | record site =>
    rw [enter, Entry.addition]
    split
    · next h =>
      rw [value_registerData_of_eq h]
      rfl
    · next h =>
      rw [value_registerData_of_ne h]
      rfl
  | names blob => rfl

theorem uncounted_enterAll (r : Registry) (es : List Entry) :
    (r.enterAll es).uncounted =
      es.foldl (fun r e => (r.enter e).uncounted) r.uncounted := by
  induction es generalizing r with
  | nil => rfl
  | cons e es ih =>
    rw [enterAll, List.foldl_cons, ← enterAll, ih, List.foldl_cons]
    congr 1
    rw [enter_eq, enter_eq]
    exact (uncounted_add _ _).symm

/-- Which registrations were made decides the registry up to its count. -/
theorem uncounted_enterAll_eq (r : Registry) {xs ys : List Entry} (h : ∀ e, e ∈ xs ↔ e ∈ ys) :
    (r.enterAll xs).uncounted = (r.enterAll ys).uncounted := by
  rw [uncounted_enterAll, uncounted_enterAll]
  refine foldl_eq_of_mem_iff (fun r e e' => ?_) (fun r e => ?_) h _
  · simp only [enter_eq, uncounted_add]
    exact congrArg uncounted (add_add_comm r _ _)
  · simp only [enter_eq]
    exact uncounted_add_add r _

end Registry

end RawProfile

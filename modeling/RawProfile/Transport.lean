import RawProfile.Bytes
import RawProfile.Event

/-!
# Transports

A transport takes the bytes of a file out of the program: it opens a file under a name, takes writes
and closes. A write says how many bytes were transferred, and nothing is promised about that number.
`Run` is a computation that uses one transport; its outcome holds every call that was made, with its
answer, and every event reported.
-/

namespace RawProfile

/-- What a transport calls an open file. -/
structure Handle where
  index : Nat
  deriving DecidableEq, Repr

structure OpenError where
  path : String
  reason : String
  deriving DecidableEq, Repr

def OpenError.message (e : OpenError) : String := s!"failed to open {e.path}: {e.reason}"

/-- States of a transport. Each operation answers, moves to the next state and may report. -/
class Transport (σ : Type) where
  name : σ → String
  openFile : σ → String → Logged (Except OpenError Handle × σ)
  /-- The answer is the number of bytes that the transport says it took. -/
  write : σ → Handle → ByteArray → Logged (Nat × σ)
  close : σ → Handle → Logged σ

/-- A call of a transport and its answer. -/
inductive Call where
  | openFile (path : String) (answer : Except OpenError Handle)
  | write (handle : Handle) (bytes : ByteArray) (answer : Nat)
  | close (handle : Handle)

/-- What came of a computation that used a transport. -/
structure Outcome (σ α : Type) where
  value : α
  transport : σ
  calls : List Call
  events : List Event

/-- A computation that uses a transport. -/
def Run (σ α : Type) : Type := σ → Outcome σ α

namespace Run

variable {σ α : Type}

instance : Monad (Run σ) where
  pure a := fun t => ⟨a, t, [], []⟩
  bind x f := fun t =>
    let ⟨a, t, calls, events⟩ := x t
    let ⟨b, t, calls', events'⟩ := f a t
    ⟨b, t, calls ++ calls', events ++ events'⟩

/-- A computation that needs no transport. -/
def ofLogged (x : Logged α) : Run σ α := fun t => ⟨x.value, t, [], x.events⟩

def report (e : Event) : Run σ Unit := ofLogged (.report e)

variable [Transport σ]

def transportName : Run σ String := fun t => ⟨Transport.name t, t, [], []⟩

def openFile (path : String) : Run σ (Except OpenError Handle) := fun t =>
  let ⟨(answer, t), events⟩ := Transport.openFile t path
  ⟨answer, t, [.openFile path answer], events⟩

def write (handle : Handle) (bytes : ByteArray) : Run σ Nat := fun t =>
  let ⟨(answer, t), events⟩ := Transport.write t handle bytes
  ⟨answer, t, [.write handle bytes answer], events⟩

def close (handle : Handle) : Run σ Unit := fun t =>
  let ⟨t, events⟩ := Transport.close t handle
  ⟨(), t, [.close handle], events⟩

end Run

/-- A call that is still to be made. -/
inductive Request where
  | openFile (path : String)
  | write (handle : Handle) (bytes : ByteArray)
  | close (handle : Handle)
  deriving DecidableEq

namespace Request

variable {σ : Type} [Transport σ]

def perform : Request → Run σ Call
  | .openFile path => return .openFile path (← Run.openFile path)
  | .write handle bytes => return .write handle bytes (← Run.write handle bytes)
  | .close handle => do
    Run.close handle
    return .close handle

/-- Makes the calls one after the other. -/
def performAll : List Request → Run σ Unit
  | [] => pure ()
  | r :: rs => do
    let _ ← r.perform
    performAll rs

end Request

namespace Run

variable {σ α β : Type} (x : Run σ α) (f : α → Run σ β) (a : α) (t : σ)

@[simp] theorem pure_apply : (pure a : Run σ α) t = ⟨a, t, [], []⟩ := rfl

@[simp] theorem value_bind : ((x >>= f) t).value = (f (x t).value (x t).transport).value := rfl

@[simp] theorem transport_bind :
    ((x >>= f) t).transport = (f (x t).value (x t).transport).transport := rfl

@[simp] theorem calls_bind :
    ((x >>= f) t).calls = (x t).calls ++ (f (x t).value (x t).transport).calls := rfl

@[simp] theorem events_bind :
    ((x >>= f) t).events = (x t).events ++ (f (x t).value (x t).transport).events := rfl

theorem bind_apply :
    (x >>= f) t = ⟨(f (x t).value (x t).transport).value, (f (x t).value (x t).transport).transport,
      (x t).calls ++ (f (x t).value (x t).transport).calls,
      (x t).events ++ (f (x t).value (x t).transport).events⟩ := rfl

instance : LawfulMonad (Run σ) :=
  LawfulMonad.mk' _
    (fun x => funext fun t => by
      change (x >>= fun a => pure a) t = x t
      simp [bind_apply])
    (fun a f => funext fun t => by simp [bind_apply])
    (fun x f g => funext fun t => by simp [bind_apply, List.append_assoc])

end Run

end RawProfile

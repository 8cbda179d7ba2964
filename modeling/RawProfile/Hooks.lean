import RawProfile.Session

/-!
# Hooks

The functions that instrumented code calls, and those that the host of the process calls. They act
on one session per process, of the native width and with a sentinel, and on one transport, which can
be replaced; both are made by the first hook that needs them. Records are read from process memory
when they are registered, and everything is read again when it is dumped.
-/

namespace RawProfile

/-- A call into the library from outside. -/
inductive Hook (σ : Type) where
  | registerFunction (address : UInt64)
  | registerNames (start length : UInt64)
  /-- Called by instrumented code at start-up; there is nothing to prepare. -/
  | initializeFile
  | counterEntrySize
  | writeFile
  | shutdown
  | installTransport (transport : σ)
  | reset

inductive HookResult (σ : Type) where
  | none
  | size (bytes : UInt64)
  | success
  | failure
  /-- The transport that was replaced. -/
  | transport (previous : σ)

namespace HookResult

/-- The status that the caller sees, of the hooks that have one. -/
def status? {σ : Type} : HookResult σ → Option Int
  | .success => some 0
  | .failure => some (-1)
  | _ => Option.none

end HookResult

namespace Hook

variable {σ : Type} [Transport σ]

def freshSession (sentinel : UInt64) : Session := (Session.ofWidth .native).withSentinel sentinel

/-- Performs a call, given the memory of the process as it is at that moment. A null record is
ignored, and the memory at the sentinel is never read. -/
def perform (memory : ProcessMemory) (s : Session) : Hook σ → Run σ (HookResult σ × Session)
  | .registerFunction address =>
    if address = 0 then return (.none, s)
    else do
      let (_, s) ← Run.ofLogged (s.registerDataWith address fun _ =>
        .ofRecord address (memory.recordAt address))
      return (.none, s)
  | .registerNames start length =>
    return (.none, ← Run.ofLogged (s.registerNames start length))
  | .initializeFile => return (.none, s)
  | .counterEntrySize => return (.size counterSize, s)
  | .writeFile => do
    match ← s.writeFile (.live memory) with
    | .ok _ => return (.success, s)
    | .error e =>
      Run.report (.writeFailed e.message)
      return (.failure, s)
  | .shutdown => do
    match ← s.shutdown (.live memory) with
    | (some (.error _), s) => return (.failure, s)
    | (_, s) => return (.success, s)
  | .installTransport new => fun old => ⟨(.transport old, s), new, [], []⟩
  | .reset => return (.none, s.reset)

/-- The call comes to what the hooks share. A null record does not. -/
def needsRuntime : Hook σ → Bool
  | .registerFunction address => address ≠ 0
  | .initializeFile => false
  | .counterEntrySize => false
  | _ => true

end Hook

/-- What the hooks of a program share. -/
structure Runtime (σ : Type) where
  session : Session
  transport : σ

/-- A running program, and what its hooks share once the first of them has needed it. -/
structure Program (σ : Type) where
  sentinel : UInt64
  /-- The transport until one is installed. -/
  initial : σ
  shared : Option (Runtime σ) := none

namespace Program

variable {σ : Type}

/-- What a hook finds, which is made if nothing is there. -/
def runtime (p : Program σ) : Runtime σ :=
  p.shared.getD ⟨Hook.freshSession p.sentinel, p.initial⟩

def call [Transport σ] (p : Program σ) (memory : ProcessMemory) (hook : Hook σ) :
    Outcome σ (HookResult σ × Program σ) :=
  let o := hook.perform memory p.runtime.session p.runtime.transport
  let shared := if hook.needsRuntime then some ⟨o.value.2, o.transport⟩ else p.shared
  { o with value := (o.value.1, { p with shared }) }

end Program

end RawProfile

import RawProfile.Dump
import RawProfile.Gate

/-!
# Sessions

The profiling state of a process: the registry, the gate of the dump at shutdown, and the width of
the files written. Any registration of a record arms the gate, the sentinel's included; the first
shutdown after that dumps, and no later one does until the session is reset.
-/

namespace RawProfile

def defaultFileName : String := "default.profraw"

structure Session where
  registry : Registry
  gate : Gate := .disarmed
  width : Width := .native
  deriving DecidableEq, Repr

namespace Session

/-- A session in which nothing was registered. -/
def ofWidth (width : Width) : Session := { registry := .ofRecordSize width.recordSize, width }

def withSentinel (s : Session) (address : UInt64) : Session :=
  { s with registry := s.registry.withSentinel address }

/-- Registers the record at an address. The sentinel is recognised by its address alone: its site
is not asked for, and the answer says whether it was. -/
def registerDataWith (s : Session) (address : UInt64) (site : Unit → RecordSite) :
    Logged ((Registration × Bool) × Session) := do
  let (armedNow, gate) := s.gate.arm
  if armedNow then Logged.report .dumpScheduled
  let described := !s.registry.isSentinel address
  let (registration, registry) ←
    s.registry.registerData (if described then site () else { address })
  return ((registration, described), { s with registry, gate })

def registerData (s : Session) (site : RecordSite) : Logged (Registration × Session) := do
  let ((registration, _), s) ← s.registerDataWith site.address fun _ => site
  return (registration, s)

def registerNames (s : Session) (start length : UInt64) : Logged Session := do
  return { s with registry := ← s.registry.registerNames start length }

/-- Forgets all registrations and disarms the gate. -/
def reset (s : Session) : Session :=
  { s with registry := s.registry.reset, gate := s.gate.reset }

variable {σ : Type} [Transport σ]

/-- Dumps now, whatever the gate says. -/
def writeFile (s : Session) (image : MemoryImage) : Run σ (Except DumpError Summary) := do
  let dump : Dump := { registry := s.registry, image, width := s.width }
  return (← dump.writeTo defaultFileName).1

/-- Dumps if the gate lets it; without a dump there is no result. -/
def shutdown (s : Session) (image : MemoryImage) :
    Run σ (Option (Except DumpError Summary) × Session) := do
  match s.gate.claim with
  | (false, _) => return (none, s)
  | (true, gate) =>
    let result ← s.writeFile image
    match result with
    | .ok summary =>
      Run.report (.dumpFinished summary.bytesWritten summary.header.numRecords)
    | .error e => Run.report (.dumpFailed e.message)
    return (some result, { s with gate })

/-- An operation on a session. -/
inductive Action where
  | registerData (site : RecordSite)
  | registerDataWith (address : UInt64) (site : Unit → RecordSite)
  | registerNames (start length : UInt64)
  | withSentinel (address : UInt64)
  | writeFile (image : MemoryImage)
  | shutdown (image : MemoryImage)
  | reset

inductive Answer where
  | done
  | registered (registration : Registration)
  | registeredWith (registration : Registration) (described : Bool)
  | dumped (result : Except DumpError Summary)
  | notDumped

def perform (s : Session) : Action → Run σ (Answer × Session)
  | .registerData site => do
    let (registration, s) ← Run.ofLogged (s.registerData site)
    return (.registered registration, s)
  | .registerDataWith address site => do
    let ((registration, described), s) ← Run.ofLogged (s.registerDataWith address site)
    return (.registeredWith registration described, s)
  | .registerNames start length =>
    return (.done, ← Run.ofLogged (s.registerNames start length))
  | .withSentinel address => return (.done, s.withSentinel address)
  | .writeFile image => return (.dumped (← s.writeFile image), s)
  | .shutdown image => do
    match ← s.shutdown image with
    | (some result, s) => return (.dumped result, s)
    | (none, s) => return (.notDumped, s)
  | .reset => return (.done, s.reset)

end Session

end RawProfile

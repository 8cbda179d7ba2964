/-!
# Events

What the library reports while it works, one value per line of the log, and `Logged`, a result
together with the events reported on the way to it.
-/

namespace RawProfile

inductive Phase where
  | idle
  | openingTransport
  | emittingHeader
  | emittingData
  | emittingCounters
  | emittingBitmap
  | emittingNames
  | emittingPadding
  | closed
  deriving DecidableEq, Repr

def Phase.name : Phase → String
  | .idle => "Idle"
  | .openingTransport => "OpeningTransport"
  | .emittingHeader => "EmittingHeader"
  | .emittingData => "EmittingData"
  | .emittingCounters => "EmittingCounters"
  | .emittingBitmap => "EmittingBitmap"
  | .emittingNames => "EmittingNames"
  | .emittingPadding => "EmittingPadding"
  | .closed => "Closed"

/-- A line of the log. -/
inductive Event where
  | dumpScheduled
  | recordRegistered (address : UInt64) (numCounters : UInt32) (counterBase : UInt64)
  | sentinelSkipped (address : UInt64)
  | namesRegistered (start length : UInt64)
  /-- The layout of a file is known; no section has been read yet. -/
  | layoutComputed (numRecords numCounters namesSize padding : UInt64)
  | phaseChanged (source target : Phase)
  | openFailed (file error transport : String)
  | outputOpened (path : String)
  | outputRefused (reason : String)
  | hostOpened (path : String) (handle : Nat)
  | hostRefused (path : String)
  | writeCutShort (transport : String) (segment requested transferred : Nat)
  | fileWritten (bytes : Nat)
  | dumpFinished (bytes : Nat) (functions : UInt64)
  | dumpFailed (error : String)
  | writeFailed (error : String)
  deriving DecidableEq, Repr

namespace Event

def level : Event → String
  | .dumpScheduled => "INFO"
  | .recordRegistered .. => "DEBUG"
  | .sentinelSkipped .. => "DEBUG"
  | .namesRegistered .. => "DEBUG"
  | .layoutComputed .. => "DEBUG"
  | .phaseChanged .. => "DEBUG"
  | .openFailed .. => "WARN"
  | .outputOpened .. => "DEBUG"
  | .outputRefused .. => "WARN"
  | .hostOpened .. => "DEBUG"
  | .hostRefused .. => "WARN"
  | .writeCutShort .. => "WARN"
  | .fileWritten .. => "DEBUG"
  | .dumpFinished .. => "INFO"
  | .dumpFailed .. => "ERROR"
  | .writeFailed .. => "WARN"

def text : Event → String
  | .dumpScheduled => "profile dump scheduled"
  | .recordRegistered address numCounters counterBase =>
    s!"register data record addr={address} counters={numCounters} counter_base={counterBase}"
  | .sentinelSkipped address => s!"skipping runtime sentinel registration addr={address}"
  | .namesRegistered start length => s!"register names start={start} len={length}"
  | .layoutComputed numRecords numCounters namesSize padding =>
    s!"raw profile layout num_data={numRecords} num_counters={numCounters} " ++
      s!"names_size={namesSize} padding={padding}"
  | .phaseChanged source target => s!"serializer state from={source.name} to={target.name}"
  | .openFailed file error transport => s!"cannot open {file}: {error} transport={transport}"
  | .outputOpened path => s!"opened profile output path={path}"
  | .outputRefused reason => s!"profile write failed: {reason}"
  | .hostOpened path handle => s!"SYS_OPEN path={path} handle={handle}"
  | .hostRefused path => s!"SYS_OPEN failed path={path}"
  | .writeCutShort transport segment requested transferred =>
    s!"short write transport={transport} segment={segment} requested={requested} " ++
      s!"transferred={transferred}"
  | .fileWritten bytes => s!"raw profile written bytes_written={bytes}"
  | .dumpFinished bytes functions => s!"profile written bytes={bytes} functions={functions}"
  | .dumpFailed error => s!"profile dump failed: {error}"
  | .writeFailed error => s!"__llvm_profile_write_file: {error}"

def line (e : Event) : String := e.level ++ " " ++ e.text

end Event

/-- A result and the events reported on the way to it. -/
structure Logged (α : Type) where
  value : α
  events : List Event := []
  deriving Repr

namespace Logged

instance : Monad Logged where
  pure a := ⟨a, []⟩
  bind x f := ⟨(f x.value).value, x.events ++ (f x.value).events⟩

def report (e : Event) : Logged Unit := ⟨(), [e]⟩

@[simp] theorem value_bind {α β : Type} (x : Logged α) (f : α → Logged β) :
    (x >>= f).value = (f x.value).value := rfl

theorem value_foldlM {α β : Type} (f : β → α → Logged β) (b : β) (xs : List α) :
    (xs.foldlM f b).value = xs.foldl (fun b a => (f b a).value) b := by
  induction xs generalizing b with
  | nil => rfl
  | cons x xs ih => rw [List.foldlM_cons, value_bind, ih, List.foldl_cons]

end Logged

end RawProfile

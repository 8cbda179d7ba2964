import RawProfile.Event
import RawProfile.Layout
import RawProfile.Span

/-!
# The registry

The registry keeps one span per section: the smallest that reaches the bounds of everything
registered in it. Registrations only ever widen a span, so their order and repetition leave no
trace. One address, the sentinel, marks the order of start-up calls and is never a record.
-/

namespace RawProfile

/-- What registration needs to know about a function record. -/
structure RecordSite where
  address : UInt64
  /-- The distance from the record to its first counter. -/
  counterOffset : Int64 := 0
  numCounters : UInt32 := 0
  deriving DecidableEq, Repr

namespace RecordSite

/-- The site of a record that lies at an address. -/
def ofRecord (address : UInt64) (record : FunctionRecord) : RecordSite :=
  ⟨address, record.counterOffset, record.numCounters⟩

/-- The address of the first counter, modulo `2 ^ 64`. -/
def counterBase (site : RecordSite) : UInt64 := site.address + site.counterOffset.toUInt64

def counters (site : RecordSite) : Span :=
  .ofLength site.counterBase (site.numCounters.toUInt64 * counterSize)

theorem counterBase_ofRecord (address : UInt64) (record : FunctionRecord) :
    (ofRecord address record).counterBase = address + record.counterPtr := by
  simp [counterBase, ofRecord, FunctionRecord.counterOffset]

theorem toNat_counters_length (site : RecordSite) :
    (site.numCounters.toUInt64 * counterSize).toNat = 8 * site.numCounters.toNat := by
  have := site.numCounters.toNat_lt
  rw [UInt64.toNat_mul, UInt32.toNat_toUInt64, show counterSize.toNat = 8 from rfl]
  omega

end RecordSite

/-- The three spans that a dump covers. -/
structure Extents where
  data : Span
  counters : Span
  names : Span
  deriving DecidableEq, Repr

inductive Registration where
  | recorded
  | skippedSentinel
  deriving DecidableEq, Repr

/-- The spans of everything registered so far; a section without registrations has none. -/
structure Registry where
  recordSize : UInt64
  sentinel : Option UInt64 := none
  data : Option Span := none
  counters : Option Span := none
  names : Option Span := none
  /-- The number of records registered, the sentinel not counted. -/
  registered : Nat := 0
  deriving DecidableEq, Repr

namespace Registry

/-- An empty registry of records of the given size. -/
def ofRecordSize (recordSize : UInt64) : Registry := { recordSize }

def withSentinel (r : Registry) (address : UInt64) : Registry :=
  { r with sentinel := some address }

def isSentinel (r : Registry) (address : UInt64) : Bool := r.sentinel == some address

/-- The span of a section after one more span was registered in it. -/
def widen (seen : Option Span) (s : Span) : Option Span :=
  some (match seen with
    | none => s
    | some t => t.hull s)

/-- Registers a record and its counters, unless it is the sentinel. -/
def registerData (r : Registry) (site : RecordSite) : Logged (Registration × Registry) :=
  if r.isSentinel site.address then
    ⟨(.skippedSentinel, r), [.sentinelSkipped site.address]⟩
  else
    ⟨(.recorded, { r with
        data := widen r.data (.ofLength site.address r.recordSize)
        counters := widen r.counters site.counters
        registered := r.registered + 1 }),
      [.recordRegistered site.address site.numCounters site.counters.start]⟩

def registerNames (r : Registry) (start length : UInt64) : Logged Registry :=
  ⟨{ r with names := widen r.names (.ofLength start length) }, [.namesRegistered start length]⟩

/-- The span of each section. -/
def extents (r : Registry) : Extents where
  data := r.data.getD .zero
  counters := r.counters.getD .zero
  names := r.names.getD .zero

/-- The registry without its registrations; record size and sentinel stay. -/
def reset (r : Registry) : Registry := { recordSize := r.recordSize, sentinel := r.sentinel }

end Registry

end RawProfile

import RawProfile.Memory.Image
import RawProfile.Registry
import RawProfile.SegmentWriter

/-!
# Dumps

A dump turns a registry and the memory behind it into a profile file. It is planned first: the
layout is computed, the header made and every section read, before the transport is touched. Then
the file is opened, its seven segments are sent in order, and whatever came of that, the file is
closed once.
-/

namespace RawProfile

/-- The sections that are copied from memory. -/
inductive Section where
  | data
  | counters
  | names
  deriving DecidableEq, Repr

def Section.name : Section → String
  | .data => "data"
  | .counters => "counters"
  | .names => "names"

def hexText (w : UInt64) : String := "0x" ++ String.ofList (Nat.toDigits 16 w.toNat)

/-- Why a dump failed. -/
inductive DumpError where
  | cannotOpen (error : OpenError)
  | shortWrite (error : ShortWrite)
  | layout (error : LayoutError)
  | sectionUnavailable (which : Section) (start length : UInt64)
  /-- The memory of the running process was asked for in another width than its own. -/
  | widthMismatch (width : Width)
  | fault (fault : WordFault)
  deriving DecidableEq, Repr

def DumpError.message : DumpError → String
  | .cannotOpen e => e.message
  | .shortWrite e => e.message
  | .layout e => e.message
  | .sectionUnavailable which start length =>
    s!"{which.name} section [{hexText start}, +{hexText length}) is not readable"
  | .widthMismatch width =>
    s!"{width.name} output needs a synthetic image; live records use the native layout"
  | .fault f => f.message

/-- All that a file is made of. -/
structure Plan where
  header : Header
  layout : Layout
  data : ByteArray
  counters : ByteArray
  names : ByteArray
  deriving DecidableEq

namespace Plan

def totalLength (p : Plan) : Nat :=
  Header.byteCount + p.data.size + p.counters.size + p.layout.numBitmapBytes.toNat +
    p.layout.paddingAfterBitmap.toNat + p.names.size + p.layout.paddingAfterNames.toNat

/-- The segments of the file, each with the phase in which it is sent. The bitmap is always
empty. -/
def segments (p : Plan) : List (Phase × Segment) :=
  [(.emittingHeader, .bytes p.header.encode),
    (.emittingData, .bytes p.data),
    (.emittingCounters, .bytes p.counters),
    (.emittingBitmap, .bytes .empty),
    (.emittingBitmap, .zeros p.layout.paddingAfterBitmap.toNat),
    (.emittingNames, .bytes p.names),
    (.emittingPadding, .zeros p.layout.paddingAfterNames.toNat)]

def file (p : Plan) : ByteArray :=
  p.header.encode ++ p.data ++ p.counters ++ zeroBytes p.layout.paddingAfterBitmap.toNat ++
    p.names ++ zeroBytes p.layout.paddingAfterNames.toNat

end Plan

/-- What a successful dump reports. -/
structure Summary where
  header : Header
  bytesWritten : Nat
  deriving DecidableEq, Repr

/-- What is dumped, and how far the last dump of it came. -/
structure Dump where
  registry : Registry
  image : MemoryImage
  width : Width := .native
  phase : Phase := .idle

namespace Dump

/-- Where the sections start. The empty bitmap is placed at the records. -/
def starts (d : Dump) : SectionStarts :=
  let e := d.registry.extents
  { data := e.data.start, counters := e.counters.start, bitmap := e.data.start,
    names := e.names.start }

def layout (d : Dump) : Except DumpError Layout :=
  if d.image.isLive ∧ d.width ≠ .native then .error (.widthMismatch d.width)
  else
    let e := d.registry.extents
    (Layout.compute d.registry.recordSize e.data.length e.counters.length
      e.names.length).mapError .layout

def readSection (d : Dump) (which : Section) (start length : UInt64) : Except DumpError ByteArray :=
  match d.image.read start length with
  | some bytes => .ok bytes
  | none => .error (.sectionUnavailable which start length)

/-- The plan of a file with the given layout: the sections are read in file order. -/
def resolve (d : Dump) (l : Layout) : Except DumpError Plan := do
  let data ← d.readSection .data d.starts.data (← l.dataBytes.mapError .fault)
  let counters ← d.readSection .counters d.starts.counters (← l.counterBytes.mapError .fault)
  let names ← d.readSection .names d.starts.names l.namesSize
  return { header := l.header d.width d.starts, layout := l, data, counters, names }

/-- Plans the file. The layout is reported before memory is read. -/
def plan (d : Dump) : Logged (Except DumpError Plan) :=
  match d.layout with
  | .error e => pure (.error e)
  | .ok l =>
    ⟨d.resolve l, [.layoutComputed l.numRecords l.numCounters l.namesSize l.paddingAfterNames]⟩

variable {σ : Type} [Transport σ]

/-- Sends segments in order, up to the first that is cut short; a phase is entered when its first
segment comes up, even if that is empty. -/
def emit (phase : Phase) (w : SegmentWriter) :
    List (Phase × Segment) → Run σ (Except ShortWrite Unit × SegmentWriter × Phase)
  | [] => return (.ok (), w, phase)
  | (next, segment) :: rest => do
    if phase ≠ next then Run.report (.phaseChanged phase next)
    match ← w.sendSegments [segment] with
    | (.error e, w) => return (.error e, w, next)
    | (.ok (), w) => emit next w rest

/-- Opens the file, sends the plan and closes the file. -/
def send (plan : Plan) (fileName : String) : Run σ (Except DumpError Summary) := do
  Run.report (.phaseChanged .idle .openingTransport)
  match ← Run.openFile fileName with
  | .error e =>
    Run.report (.openFailed fileName e.message (← Run.transportName))
    Run.report (.phaseChanged .openingTransport .closed)
    return .error (.cannotOpen e)
  | .ok handle =>
    let (result, w, phase) ← emit .openingTransport { handle } plan.segments
    Run.close handle
    Run.report (.phaseChanged phase .closed)
    match result with
    | .error e => return .error (.shortWrite e)
    | .ok () =>
      Run.report (.fileWritten w.bytesWritten)
      return .ok ⟨plan.header, w.bytesWritten⟩

/-- Plans the file and sends it. A plan that fails leaves the transport alone and the dump idle. -/
def writeTo (d : Dump) (fileName : String) : Run σ (Except DumpError Summary × Dump) := do
  match ← Run.ofLogged d.plan with
  | .error e => return (.error e, { d with phase := .idle })
  | .ok plan => return (← send plan fileName, { d with phase := .closed })

end Dump

end RawProfile

import RawProfile.Header
import RawProfile.FunctionRecord
import RawProfile.Word

/-!
# Section layout

How many records, counters and bytes each section of a file holds, and how long the file is. A
layout is computed from the lengths of three address spans: records and counters are rounded up to
whole elements, and zero bytes after the names bring the file to a multiple of eight. All sizes are
words, so every product and sum is checked.
-/

namespace RawProfile

def counterSize : UInt64 := 8

/-- Zero bytes needed after `length` bytes to reach a multiple of eight. -/
def wordPadding (length : UInt64) : UInt64 := (8 - length % 8) % 8

/-- The size that did not fit into a word. -/
inductive Measure where
  | data
  | counters
  | file
  deriving DecidableEq, Repr

def Measure.name : Measure → String
  | .data => "data"
  | .counters => "counters"
  | .file => "file"

/-- Why there is no layout. -/
inductive LayoutError where
  | overflow (measure : Measure)
  | invalidRecordSize (size : UInt64)
  deriving DecidableEq, Repr

def LayoutError.message : LayoutError → String
  | .overflow measure => s!"integer overflow while computing {measure.name} size"
  | .invalidRecordSize size => s!"record size must be a non-zero multiple of 8 (got {size})"

/-- Element counts and byte sizes of the sections of a file. -/
structure Layout where
  recordSize : UInt64
  numRecords : UInt64
  numCounters : UInt64
  numBitmapBytes : UInt64
  paddingAfterBitmap : UInt64
  namesSize : UInt64
  paddingAfterNames : UInt64
  deriving DecidableEq, Repr

namespace Layout

def dataBytes (l : Layout) : Except WordFault UInt64 := Word.mul? l.numRecords l.recordSize

def counterBytes (l : Layout) : Except WordFault UInt64 := Word.mul? l.numCounters counterSize

/-- Bytes in the whole file, header included. -/
def totalLength (l : Layout) : Except LayoutError UInt64 := do
  let data ← l.dataBytes.mapError fun _ => .overflow .data
  let counters ← l.counterBytes.mapError fun _ => .overflow .counters
  let sections := [data, counters, l.numBitmapBytes, l.paddingAfterBitmap, l.namesSize,
    l.paddingAfterNames]
  (sections.foldlM Word.add? (UInt64.ofNat Header.byteCount)).mapError fun _ => .overflow .file

/-- Spans of the given lengths, rounded up to whole elements and padded; the bitmap is empty. -/
def ofSpans (recordSize data counters names : UInt64) : Layout where
  recordSize
  numRecords := Word.ceilDiv data recordSize
  numCounters := Word.ceilDiv counters counterSize
  numBitmapBytes := 0
  paddingAfterBitmap := 0
  namesSize := names
  paddingAfterNames := wordPadding names

/-- The layout for spans of the given lengths. A layout whose file length does not fit into a word
is refused, so the sizes of an accepted one can be computed. -/
def compute (recordSize data counters names : UInt64) : Except LayoutError Layout :=
  if recordSize = 0 ∨ recordSize % 8 ≠ 0 then .error (.invalidRecordSize recordSize)
  else do
    let layout := ofSpans recordSize data counters names
    let _ ← layout.totalLength
    return layout

end Layout

/-- The addresses at which the sections start in the instrumented program. -/
structure SectionStarts where
  data : UInt64 := 0
  counters : UInt64 := 0
  bitmap : UInt64 := 0
  names : UInt64 := 0
  deriving DecidableEq, Repr

/-- The header of a file with the given layout: counters and bitmap are placed relative to the
records, the names absolutely. -/
def Layout.header (l : Layout) (width : Width) (starts : SectionStarts) : Header where
  magic := width.magic
  version := Header.currentVersion
  binaryIdsSize := 0
  numRecords := l.numRecords
  paddingBeforeCounters := 0
  numCounters := l.numCounters
  paddingAfterCounters := 0
  numBitmapBytes := l.numBitmapBytes
  paddingAfterBitmap := l.paddingAfterBitmap
  namesSize := l.namesSize
  countersDelta := starts.counters - starts.data
  bitmapDelta := starts.bitmap - starts.data
  namesStart := starts.names
  lastValueKind := UInt64.ofNat ValueKind.last.index

end RawProfile

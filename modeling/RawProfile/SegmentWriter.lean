import RawProfile.Transport

/-!
# Writing segments

A file is sent as a list of segments, each a string of bytes or a run of zeros. Bytes go out in one
write, zeros in writes of eight, and an empty segment in none. The first write that the transport
takes only in part ends the sending, and the error names the segment by its number over the whole
life of the writer.
-/

namespace RawProfile

/-- A write of which the transport took only a part. -/
structure ShortWrite where
  segment : Nat
  requested : Nat
  transferred : Nat
  deriving DecidableEq, Repr

def ShortWrite.message (e : ShortWrite) : String :=
  s!"short write in segment {e.segment}: transferred {e.transferred} of {e.requested} bytes"

inductive Segment where
  | bytes (bytes : ByteArray)
  | zeros (count : Nat)
  deriving DecidableEq

namespace Segment

def zeroChunk : Nat := 8

def length : Segment → Nat
  | .bytes b => b.size
  | .zeros n => n

def isEmpty (s : Segment) : Bool := s.length == 0

end Segment

/-- The sending of segments to one open file. -/
structure SegmentWriter where
  handle : Handle
  /-- The number of segments sent whole; also the number of the next segment. -/
  segmentsWritten : Nat := 0
  /-- The bytes that the transport took, those of a failed write included. -/
  bytesWritten : Nat := 0
  deriving DecidableEq, Repr

namespace SegmentWriter

variable {σ : Type} [Transport σ]

/-- Sends one chunk. The transport is not credited with more than it was given. -/
def sendChunk (w : SegmentWriter) (chunk : ByteArray) :
    Run σ (Except ShortWrite Unit × SegmentWriter) := do
  let transferred := min (← Run.write w.handle chunk) chunk.size
  let w := { w with bytesWritten := w.bytesWritten + transferred }
  if transferred < chunk.size then
    Run.report (.writeCutShort (← Run.transportName) w.segmentsWritten chunk.size transferred)
    return (.error ⟨w.segmentsWritten, chunk.size, transferred⟩, w)
  else return (.ok (), w)

/-- Sends zeros, eight at a time, up to the first write that is cut short. -/
def sendZeros (w : SegmentWriter) (remaining : Nat) :
    Run σ (Except ShortWrite Unit × SegmentWriter) :=
  if remaining = 0 then return (.ok (), w)
  else do
    let chunk := min remaining Segment.zeroChunk
    match ← w.sendChunk (zeroBytes chunk) with
    | (.error e, w) => return (.error e, w)
    | (.ok (), w) => w.sendZeros (remaining - chunk)
termination_by remaining
decreasing_by
  simp only [Segment.zeroChunk]
  omega

def sendContent (w : SegmentWriter) : Segment → Run σ (Except ShortWrite Unit × SegmentWriter)
  | .bytes b => if b.size = 0 then return (.ok (), w) else w.sendChunk b
  | .zeros n => w.sendZeros n

/-- Sends one segment; it gets the next number, and keeps it only if it was sent whole. -/
def sendSegment (w : SegmentWriter) (segment : Segment) :
    Run σ (Except ShortWrite Unit × SegmentWriter) := do
  match ← w.sendContent segment with
  | (.error e, w) => return (.error e, w)
  | (.ok (), w) => return (.ok (), { w with segmentsWritten := w.segmentsWritten + 1 })

/-- Sends segments in order, up to the first that is cut short. -/
def sendSegments (w : SegmentWriter) :
    List Segment → Run σ (Except ShortWrite Unit × SegmentWriter)
  | [] => return (.ok (), w)
  | segment :: segments => do
    match ← w.sendSegment segment with
    | (.error e, w) => return (.error e, w)
    | (.ok (), w) => w.sendSegments segments

end SegmentWriter

end RawProfile

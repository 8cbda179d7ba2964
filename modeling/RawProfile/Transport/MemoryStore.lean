import RawProfile.Bindings
import RawProfile.Transport

/-!
# Files kept in memory

A transport that keeps its files in memory and counts the calls. Two faults can be switched on:
every opening fails, or the write with a given number, counted from zero over all writes, transfers
half of its bytes.
-/

namespace RawProfile

structure MemoryStore where
  files : List (String × ByteArray) := []
  /-- The file of each handle that was given out; none once the handle is closed. -/
  handles : List (Option String) := []
  openCalls : Nat := 0
  writeLengths : Array Nat := #[]
  closeCalls : Nat := 0
  failOpen : Bool := false
  shortWriteAt : Option Nat := none
  deriving DecidableEq

namespace MemoryStore

def withOpenFailure (s : MemoryStore) : MemoryStore := { s with failOpen := true }

/-- The same store, where the write with the given number transfers half of its bytes. -/
def withShortWriteAt (s : MemoryStore) (call : Nat) : MemoryStore :=
  { s with shortWriteAt := some call }

def file? (s : MemoryStore) (name : String) : Option ByteArray := Bindings.get? name s.files

/-- The number of writes, those without effect included. -/
def writeCalls (s : MemoryStore) : Nat := s.writeLengths.size

def openHandles (s : MemoryStore) : Nat := s.handles.countP Option.isSome

/-- The file that a handle stands for, as long as it is open. -/
def nameOf? (s : MemoryStore) (handle : Handle) : Option String :=
  (s.handles[handle.index]?).join

def openFile (s : MemoryStore) (path : String) : Except OpenError Handle × MemoryStore :=
  let s := { s with openCalls := s.openCalls + 1 }
  if s.failOpen then (.error ⟨path, "injected open failure"⟩, s)
  else (.ok ⟨s.handles.length⟩, { s with
    files := Bindings.put path .empty s.files
    handles := s.handles ++ [some path] })

/-- How many of a number of bytes the next write takes, if it goes to an open handle. -/
def taken (s : MemoryStore) (length : Nat) : Nat :=
  if s.shortWriteAt = some s.writeCalls then length / 2 else length

/-- Appends to the file of an open handle; any other handle takes nothing. -/
def write (s : MemoryStore) (handle : Handle) (bytes : ByteArray) : Nat × MemoryStore :=
  let taken := s.taken bytes.size
  match s.nameOf? handle with
  | none => (0, { s with writeLengths := s.writeLengths.push bytes.size })
  | some name => (taken, { s with
      writeLengths := s.writeLengths.push bytes.size
      files := Bindings.modify name (· ++ bytes.extract 0 taken) s.files })

def close (s : MemoryStore) (handle : Handle) : MemoryStore :=
  { s with closeCalls := s.closeCalls + 1, handles := s.handles.set handle.index none }

instance : Transport MemoryStore where
  name _ := "mem"
  openFile s path := pure (s.openFile path)
  write s handle bytes := pure (s.write handle bytes)
  close s handle := pure (s.close handle)

end MemoryStore

end RawProfile

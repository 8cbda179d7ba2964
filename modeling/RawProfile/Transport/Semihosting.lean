import RawProfile.Transport

/-!
# Semihosting

Files on the machine of a debugger. Each request names an operation and three argument words; where
a word is the address of a buffer, the buffer goes with it. The host may be any function of the
requests made so far, with the replies they got, and the request at hand. It replies to a write with
the number of bytes that it did not take.
-/

namespace RawProfile.Semihosting

/-- Mode bits of an opening, added up. -/
structure OpenMode where
  bits : UInt64
  deriving DecidableEq, Repr

namespace OpenMode

def write : OpenMode := ⟨4⟩

def binary : OpenMode := ⟨1⟩

def plus : OpenMode := ⟨2⟩

/-- Create or empty the file, and take its bytes as they are. -/
def writePlusBinary : OpenMode := ⟨write.bits ||| binary.bits ||| plus.bits⟩

end OpenMode

inductive Argument where
  | word (w : UInt64)
  | buffer
  deriving DecidableEq, Repr

/-- What is asked of the host. -/
inductive HostRequest where
  | openFile (path : String) (mode : OpenMode)
  | write (handle : UInt64) (bytes : ByteArray)
  | close (handle : UInt64)
  deriving DecidableEq

namespace HostRequest

def operation : HostRequest → Nat
  | .openFile .. => 1
  | .write .. => 5
  | .close .. => 2

/-- The argument words. The length of a path leaves out the byte that ends it. -/
def arguments : HostRequest → List Argument
  | .openFile path mode => [.buffer, .word mode.bits, .word (.ofNat path.utf8ByteSize)]
  | .write handle bytes => [.word handle, .buffer, .word (.ofNat bytes.size)]
  | .close handle => [.word handle, .word 0, .word 0]

/-- The buffer that goes with the request; a path ends in a zero byte. -/
def buffer : HostRequest → Option ByteArray
  | .openFile path _ => some (path.toUTF8.push 0)
  | .write _ bytes => some bytes
  | .close _ => none

def isOpen : HostRequest → Bool
  | .openFile .. => true
  | _ => false

end HostRequest

def openFailed : UInt64 := 0xffffffffffffffff

structure Exchange where
  request : HostRequest
  reply : UInt64
  deriving DecidableEq

/-- How a host replies, given the exchanges so far. -/
abbrev Host : Type := Array Exchange → HostRequest → UInt64

/-- The host that replies with the given words in turn. After them it gives out handles 1, 2, … to
openings, in the count of all openings, takes every byte, and replies zero to closings. -/
def Host.scripted (script : List UInt64) : Host := fun past request =>
  match script[past.size]? with
  | some reply => reply
  | none =>
    if request.isOpen then .ofNat (past.countP (·.request.isOpen) + 1) else 0

/-- A debug host and what has passed between it and the program, the first exchange first. -/
structure Link where
  host : Host
  exchanges : Array Exchange := #[]

namespace Link

/-- Makes one request. -/
def ask (l : Link) (request : HostRequest) : UInt64 × Link :=
  let reply := l.host l.exchanges request
  (reply, { l with exchanges := l.exchanges.push ⟨request, reply⟩ })

/-- Opens a file for writing. A path that holds a zero byte cannot be passed to the host. -/
def openFile (l : Link) (path : String) : Logged (Except OpenError Handle × Link) :=
  if '\x00' ∈ path.toList then pure (.error ⟨path, "path contains a NUL byte"⟩, l)
  else
    let (reply, l) := l.ask (.openFile path .writePlusBinary)
    if reply = openFailed then
      ⟨(.error ⟨path, "host returned -1"⟩, l), [.hostRefused path]⟩
    else ⟨(.ok ⟨reply.toNat⟩, l), [.hostOpened path reply.toNat]⟩

/-- Sends bytes to the host. -/
def write (l : Link) (handle : Handle) (bytes : ByteArray) : Nat × Link :=
  let (notTaken, l) := l.ask (.write (.ofNat handle.index) bytes)
  (bytes.size - notTaken.toNat, l)

def close (l : Link) (handle : Handle) : Link := (l.ask (.close (.ofNat handle.index))).2

instance : Transport Link where
  name _ := "semihost"
  openFile := openFile
  write l handle bytes := pure (l.write handle bytes)
  close l handle := pure (l.close handle)

end Link

end RawProfile.Semihosting

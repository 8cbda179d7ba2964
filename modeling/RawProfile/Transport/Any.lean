import RawProfile.Transport.Directory
import RawProfile.Transport.MemoryStore
import RawProfile.Transport.Scripted
import RawProfile.Transport.Semihosting

/-!
# Any transport

One type for the transports of the library, for callers that choose among them while they run.
-/

namespace RawProfile

inductive AnyTransport where
  | memory (store : MemoryStore)
  | directory (output : DirectoryOutput)
  | semihosting (link : Semihosting.Link)
  | scripted (script : ScriptedTransport)

namespace AnyTransport

def openFile (t : AnyTransport) (path : String) :
    Logged (Except OpenError Handle × AnyTransport) :=
  match t with
  | .memory s => return (← Transport.openFile s path).map id .memory
  | .directory d => return (← Transport.openFile d path).map id .directory
  | .semihosting l => return (← Transport.openFile l path).map id .semihosting
  | .scripted s => return (← Transport.openFile s path).map id .scripted

def write (t : AnyTransport) (handle : Handle) (bytes : ByteArray) :
    Logged (Nat × AnyTransport) :=
  match t with
  | .memory s => return (← Transport.write s handle bytes).map id .memory
  | .directory d => return (← Transport.write d handle bytes).map id .directory
  | .semihosting l => return (← Transport.write l handle bytes).map id .semihosting
  | .scripted s => return (← Transport.write s handle bytes).map id .scripted

def close (t : AnyTransport) (handle : Handle) : Logged AnyTransport :=
  match t with
  | .memory s => return .memory (← Transport.close s handle)
  | .directory d => return .directory (← Transport.close d handle)
  | .semihosting l => return .semihosting (← Transport.close l handle)
  | .scripted s => return .scripted (← Transport.close s handle)

def name : AnyTransport → String
  | .memory s => Transport.name s
  | .directory d => Transport.name d
  | .semihosting l => Transport.name l
  | .scripted s => Transport.name s

instance : Transport AnyTransport where
  name := name
  openFile := openFile
  write := write
  close := close

end AnyTransport

end RawProfile

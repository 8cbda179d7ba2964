import RawProfile.Transport

/-!
# Scripted transports

A transport that answers from a script, for trying out what the library does when a transport
misbehaves.
-/

namespace RawProfile

structure ScriptedTransport where
  failOpen : Option String := none
  handle : Handle := ⟨0⟩
  /-- The answers to the writes to come; after them every write is taken whole. -/
  returns : List Nat := []
  deriving DecidableEq, Repr

namespace ScriptedTransport

def openFile (s : ScriptedTransport) (path : String) : Except OpenError Handle :=
  match s.failOpen with
  | some reason => .error ⟨path, reason⟩
  | none => .ok s.handle

def write (s : ScriptedTransport) (bytes : ByteArray) : Nat × ScriptedTransport :=
  match s.returns with
  | [] => (bytes.size, s)
  | n :: rest => (n, { s with returns := rest })

instance : Transport ScriptedTransport where
  name _ := "scripted"
  openFile s path := pure (s.openFile path, s)
  write s _ bytes := pure (s.write bytes)
  close s _ := pure s

end ScriptedTransport

end RawProfile

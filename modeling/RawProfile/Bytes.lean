/-!
# Bytes

Strings of bytes: adding bytes at the end, and zeros.
-/

namespace RawProfile

instance decidableEqBytes : DecidableEq ByteArray := ByteArray.instDecidableEq

/-- Bytes with more bytes after them. -/
def pushBytes (start : ByteArray) (bs : List UInt8) : ByteArray := bs.foldl ByteArray.push start

theorem pushBytes_eq (start : ByteArray) (bs : List UInt8) :
    pushBytes start bs = start ++ bs.toByteArray := by
  induction bs generalizing start with
  | nil => simp [pushBytes]
  | cons b bs ih =>
    rw [pushBytes, List.foldl_cons, ← pushBytes, ih]
    apply ByteArray.ext
    simp [ByteArray.data_append, ByteArray.data_push, List.data_toByteArray]

def zeroBytes (n : Nat) : ByteArray := ⟨Array.replicate n 0⟩

@[simp] theorem size_zeroBytes (n : Nat) : (zeroBytes n).size = n := by
  simp [zeroBytes, ByteArray.size]

end RawProfile

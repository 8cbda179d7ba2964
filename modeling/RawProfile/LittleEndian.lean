import RawProfile.Bytes

/-!
# Little-endian byte order

`littleEndian n v` is the `n` low bytes of `v`, least significant first, and `ofLittleEndian` reads
them back. The two are inverse on `n`-byte strings, so a word of a fixed size has one encoding.
-/

namespace RawProfile

/-- The `n` low bytes of `v`, least significant first. -/
def littleEndian : (n : Nat) → (v : Nat) → List UInt8
  | 0, _ => []
  | n + 1, v => UInt8.ofNat v :: littleEndian n (v / 256)

/-- The number that the bytes stand for, the first being the least significant. -/
def ofLittleEndian : List UInt8 → Nat
  | [] => 0
  | b :: bs => b.toNat + 256 * ofLittleEndian bs

@[simp] theorem length_littleEndian (n v : Nat) : (littleEndian n v).length = n := by
  induction n generalizing v with
  | zero => rfl
  | succ n ih => simp [littleEndian, ih]

/-- How many numbers there are that fit into `n` bytes. -/
def byteCapacity : (n : Nat) → Nat
  | 0 => 1
  | n + 1 => 256 * byteCapacity n

theorem ofLittleEndian_littleEndian (n v : Nat) :
    ofLittleEndian (littleEndian n v) = v % byteCapacity n := by
  induction n generalizing v with
  | zero => simp [littleEndian, ofLittleEndian, byteCapacity, Nat.mod_one]
  | succ n ih =>
    rw [littleEndian, ofLittleEndian, ih, UInt8.toNat_ofNat', byteCapacity, Nat.mod_mul]

theorem ofLittleEndian_lt (bs : List UInt8) : ofLittleEndian bs < byteCapacity bs.length := by
  induction bs with
  | nil => simp [ofLittleEndian, byteCapacity]
  | cons b bs ih =>
    have hb := b.toNat_lt
    rw [ofLittleEndian, List.length_cons, byteCapacity]
    omega

theorem littleEndian_ofLittleEndian (bs : List UInt8) :
    littleEndian bs.length (ofLittleEndian bs) = bs := by
  induction bs with
  | nil => rfl
  | cons b bs ih =>
    have hb := b.toNat_lt
    have hdiv : (b.toNat + 256 * ofLittleEndian bs) / 256 = ofLittleEndian bs := by omega
    have hlow : UInt8.ofNat (b.toNat + 256 * ofLittleEndian bs) = b := by
      rw [← UInt8.toNat_inj, UInt8.toNat_ofNat']
      omega
    rw [List.length_cons, ofLittleEndian, littleEndian, hdiv, hlow, ih]

theorem byteCapacity_eight : byteCapacity 8 = UInt64.size := rfl

def wordBytes (w : UInt64) : List UInt8 := littleEndian 8 w.toNat

def wordOfBytes (bs : List UInt8) : UInt64 := UInt64.ofNat (ofLittleEndian bs)

@[simp] theorem length_wordBytes (w : UInt64) : (wordBytes w).length = 8 := length_littleEndian 8 _

@[simp] theorem wordOfBytes_wordBytes (w : UInt64) : wordOfBytes (wordBytes w) = w := by
  rw [wordOfBytes, wordBytes, ofLittleEndian_littleEndian, byteCapacity_eight,
    Nat.mod_eq_of_lt w.toNat_lt, UInt64.ofNat_toNat]

theorem wordBytes_wordOfBytes {bs : List UInt8} (h : bs.length = 8) :
    wordBytes (wordOfBytes bs) = bs := by
  have hlt := ofLittleEndian_lt bs
  rw [h, byteCapacity_eight] at hlt
  rw [wordBytes, wordOfBytes, UInt64.toNat_ofNat', Nat.mod_eq_of_lt hlt, ← h,
    littleEndian_ofLittleEndian]

def wordsBytes (ws : List UInt64) : ByteArray :=
  ws.foldl (fun bytes w => pushBytes bytes (wordBytes w)) .empty

theorem wordsBytes_eq (ws : List UInt64) : wordsBytes ws = (ws.flatMap wordBytes).toByteArray := by
  suffices h : ∀ start : ByteArray, ws.foldl (fun bytes w => pushBytes bytes (wordBytes w)) start =
      start ++ (ws.flatMap wordBytes).toByteArray by
    simpa [wordsBytes] using h .empty
  induction ws with
  | nil => simp
  | cons w ws ih =>
    intro start
    rw [List.foldl_cons, ih, pushBytes_eq, List.flatMap_cons, List.toByteArray_append,
      ByteArray.append_assoc]

theorem wordsBytes_append (ws vs : List UInt64) :
    wordsBytes (ws ++ vs) = wordsBytes ws ++ wordsBytes vs := by
  simp only [wordsBytes_eq, List.flatMap_append, List.toByteArray_append]

@[simp] theorem size_wordsBytes (ws : List UInt64) : (wordsBytes ws).size = 8 * ws.length := by
  rw [wordsBytes_eq, List.size_toByteArray]
  induction ws with
  | nil => rfl
  | cons w ws ih =>
    rw [List.flatMap_cons, List.length_append, ih, length_wordBytes, List.length_cons]
    omega

end RawProfile

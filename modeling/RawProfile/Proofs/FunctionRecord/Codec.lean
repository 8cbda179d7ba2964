import RawProfile.FunctionRecord
import RawProfile.Proofs.Header.Bijection

/-!
# Function records and their bytes

`FunctionRecord.Field` names the fields of a record and gives the place of each in its 64 bytes:
words first, then counts of four and two bytes. The fields leave no gap and do not overlap
(`existsUnique_field`), the bytes of a field are its number (`cut_bytes`), and so 64 bytes are a
record in exactly one way: `decode?_eq_some_iff`.
-/

namespace RawProfile

namespace FunctionRecord

inductive Field where
  | nameRef
  | funcHash
  | counterPtr
  | bitmapPtr
  | functionPtr
  | values
  | numCounters
  | indirectCallSites
  | memOpSites
  | numBitmapBytes
  | reserved
  deriving DecidableEq, Repr

namespace Field

/-- The fields in the order of memory. -/
def memoryOrder : List Field :=
  [nameRef, funcHash, counterPtr, bitmapPtr, functionPtr, values, numCounters, indirectCallSites,
    memOpSites, numBitmapBytes, reserved]

def offset : Field → Nat
  | nameRef => 0
  | funcHash => 8
  | counterPtr => 16
  | bitmapPtr => 24
  | functionPtr => 32
  | values => 40
  | numCounters => 48
  | indirectCallSites => 52
  | memOpSites => 54
  | numBitmapBytes => 56
  | reserved => 60

def size : Field → Nat
  | nameRef | funcHash | counterPtr | bitmapPtr | functionPtr | values => 8
  | numCounters | numBitmapBytes | reserved => 4
  | indirectCallSites | memOpSites => 2

def get (r : FunctionRecord) : Field → Nat
  | nameRef => r.nameRef.toNat
  | funcHash => r.funcHash.toNat
  | counterPtr => r.counterPtr.toNat
  | bitmapPtr => r.bitmapPtr.toNat
  | functionPtr => r.functionPtr.toNat
  | values => r.values.toNat
  | numCounters => r.numCounters.toNat
  | indirectCallSites => r.indirectCallSites.toNat
  | memOpSites => r.memOpSites.toNat
  | numBitmapBytes => r.numBitmapBytes.toNat
  | reserved => r.reserved.toNat

/-- The bytes at the place of the field. -/
def cut (f : Field) (bs : List UInt8) : List UInt8 := (bs.drop f.offset).take f.size

theorem get_lt (r : FunctionRecord) (f : Field) : f.get r < byteCapacity f.size := by
  cases f with
  | nameRef => exact r.nameRef.toNat_lt
  | funcHash => exact r.funcHash.toNat_lt
  | counterPtr => exact r.counterPtr.toNat_lt
  | bitmapPtr => exact r.bitmapPtr.toNat_lt
  | functionPtr => exact r.functionPtr.toNat_lt
  | values => exact r.values.toNat_lt
  | numCounters => exact r.numCounters.toNat_lt
  | indirectCallSites => exact r.indirectCallSites.toNat_lt
  | memOpSites => exact r.memOpSites.toNat_lt
  | numBitmapBytes => exact r.numBitmapBytes.toNat_lt
  | reserved => exact r.reserved.toNat_lt

theorem offset_add_size_le (f : Field) : f.offset + f.size ≤ byteCount := by
  cases f <;> decide

theorem mem_memoryOrder (f : Field) : f ∈ memoryOrder := by
  cases f <;> decide

theorem apart_of_ne {f g : Field} (h : f ≠ g) :
    f.offset + f.size ≤ g.offset ∨ g.offset + g.size ≤ f.offset := by
  have hall : ∀ f ∈ memoryOrder, ∀ g ∈ memoryOrder, f ≠ g →
      f.offset + f.size ≤ g.offset ∨ g.offset + g.size ≤ f.offset := by decide
  exact hall f f.mem_memoryOrder g g.mem_memoryOrder h

theorem exists_before (f : Field) : ∃ before after, memoryOrder = before ++ f :: after ∧
    (before.map size).sum = f.offset := by
  refine ⟨memoryOrder.takeWhile (· ≠ f), (memoryOrder.dropWhile (· ≠ f)).tail, ?_, ?_⟩
  · cases f <;> decide
  · cases f <;> decide

end Field

/-- Each byte of a record belongs to one field. -/
theorem existsUnique_field {i : Nat} (h : i < byteCount) :
    ∃! f : Field, f.offset ≤ i ∧ i < f.offset + f.size := by
  have hall : ∀ i < byteCount, ∃ f ∈ Field.memoryOrder, f.offset ≤ i ∧ i < f.offset + f.size := by
    decide
  obtain ⟨f, -, hf⟩ := hall i h
  refine ⟨f, hf, fun g hg => Decidable.byContradiction fun hne => ?_⟩
  have := Field.apart_of_ne hne
  omega

/-! ## Writing a record out -/

variable {r r' : FunctionRecord} {bs cs : List UInt8}

def fieldBytes (r : FunctionRecord) (fs : List Field) : List UInt8 :=
  fs.flatMap fun f => littleEndian f.size (f.get r)

theorem bytes_eq (r : FunctionRecord) : r.bytes = r.fieldBytes Field.memoryOrder := by
  simp [bytes, fieldBytes, Field.memoryOrder, wordBytes, Field.size, Field.get]

theorem length_fieldBytes (r : FunctionRecord) (fs : List Field) :
    (r.fieldBytes fs).length = (fs.map Field.size).sum := by
  simp [fieldBytes, List.length_flatMap]

theorem cut_bytes (r : FunctionRecord) (f : Field) :
    f.cut r.bytes = littleEndian f.size (f.get r) := by
  obtain ⟨before, after, horder, hoffset⟩ := f.exists_before
  have hbefore : (r.fieldBytes before).length = f.offset :=
    (r.length_fieldBytes before).trans hoffset
  have hbytes : r.bytes =
      r.fieldBytes before ++ (littleEndian f.size (f.get r) ++ r.fieldBytes after) := by
    rw [bytes_eq, horder]
    simp [fieldBytes]
  rw [Field.cut, hbytes, List.drop_left' hbefore, List.take_left' (length_littleEndian _ _)]

/-- A byte of a record is a byte of the field that it belongs to, the least significant one first. -/
theorem getElem?_encode (r : FunctionRecord) (f : Field) {j : Nat} (hj : j < f.size) :
    r.encode.data[f.offset + j]? = some (UInt8.ofNat (f.get r / 256 ^ j)) := by
  have hcut : (f.cut r.bytes)[j]? = r.bytes[f.offset + j]? := by
    rw [Field.cut, List.getElem?_take_of_lt hj, List.getElem?_drop]
  rw [encode, List.data_toByteArray, List.getElem?_toArray, ← hcut, cut_bytes]
  exact getElem?_littleEndian hj _

/-- The bytes without a meaning are zero in a record that was made for a function. -/
theorem getElem?_encode_ofOffset (nameRef funcHash : UInt64) (counterOffset : Int64)
    (numCounters : UInt32) {i : Nat} (hstart : 60 ≤ i) (hend : i < 64) :
    (ofOffset nameRef funcHash counterOffset numCounters).encode.data[i]? = some 0 := by
  have hbyte := getElem?_encode (ofOffset nameRef funcHash counterOffset numCounters) .reserved
    (show i - 60 < 4 by omega)
  rw [show Field.reserved.offset + (i - 60) = i from Nat.add_sub_cancel' hstart] at hbyte
  rw [hbyte, show Field.reserved.get (ofOffset nameRef funcHash counterOffset numCounters) = 0
    from rfl, Nat.zero_div]
  rfl

/-! ## Reading a record back -/

theorem ext_get (h : ∀ f : Field, f.get r = f.get r') : r = r' := by
  cases r
  cases r'
  congr 1
  · exact UInt64.toNat_inj.1 (h .nameRef)
  · exact UInt64.toNat_inj.1 (h .funcHash)
  · exact UInt64.toNat_inj.1 (h .counterPtr)
  · exact UInt64.toNat_inj.1 (h .bitmapPtr)
  · exact UInt64.toNat_inj.1 (h .functionPtr)
  · exact UInt64.toNat_inj.1 (h .values)
  · exact UInt32.toNat_inj.1 (h .numCounters)
  · exact UInt16.toNat_inj.1 (h .indirectCallSites)
  · exact UInt16.toNat_inj.1 (h .memOpSites)
  · exact UInt32.toNat_inj.1 (h .numBitmapBytes)
  · exact UInt32.toNat_inj.1 (h .reserved)

theorem eq_of_cut (hbs : bs.length = byteCount) (hcs : cs.length = byteCount)
    (h : ∀ f : Field, f.cut bs = f.cut cs) : bs = cs := by
  refine List.ext_getElem? fun i => ?_
  by_cases hi : i < byteCount
  · obtain ⟨f, ⟨hstart, hend⟩, -⟩ := existsUnique_field hi
    have hat (ds : List UInt8) : (f.cut ds)[i - f.offset]? = ds[i]? := by
      rw [Field.cut, List.getElem?_take_of_lt (by omega), List.getElem?_drop,
        Nat.add_sub_cancel' hstart]
    rw [← hat bs, ← hat cs, h f]
  · rw [List.getElem?_eq_none (by omega), List.getElem?_eq_none (by omega)]

theorem length_cut (f : Field) (h : bs.length = byteCount) : (f.cut bs).length = f.size := by
  have := f.offset_add_size_le
  rw [Field.cut, List.length_take, List.length_drop]
  omega

theorem get_ofBytes (h : bs.length = byteCount) (f : Field) :
    f.get (ofBytes bs) = ofLittleEndian (f.cut bs) := by
  have hlt := ofLittleEndian_lt (f.cut bs)
  rw [length_cut f h] at hlt
  cases f <;> exact Nat.mod_eq_of_lt hlt

theorem ofBytes_bytes (r : FunctionRecord) : ofBytes r.bytes = r :=
  ext_get fun f => by
    rw [get_ofBytes r.length_bytes, cut_bytes, ofLittleEndian_littleEndian,
      Nat.mod_eq_of_lt (f.get_lt r)]

theorem bytes_ofBytes (h : bs.length = byteCount) : (ofBytes bs).bytes = bs := by
  refine eq_of_cut (length_bytes _) h fun f => ?_
  rw [cut_bytes, get_ofBytes h, ← length_cut f h, littleEndian_ofLittleEndian]

theorem decode?_eq_some_iff {bytes : ByteArray} {r : FunctionRecord} :
    decode? bytes = some r ↔ r.encode = bytes := by
  constructor
  · intro hdecode
    unfold decode? at hdecode
    split at hdecode
    · next hsize =>
      cases hdecode
      apply ByteArray.ext
      rw [encode, bytes_ofBytes hsize, List.data_toByteArray, Array.toArray_toList]
    · cases hdecode
  · rintro rfl
    rw [decode?, if_pos r.size_encode, encode, List.data_toByteArray, ofBytes_bytes]

theorem exists_decode?_iff {bytes : ByteArray} :
    (∃ r, decode? bytes = some r) ↔ bytes.size = byteCount := by
  constructor
  · rintro ⟨r, hdecode⟩
    rw [← decode?_eq_some_iff.1 hdecode, size_encode]
  · intro hsize
    exact ⟨_, if_pos hsize⟩

/-- Any 64 bytes are the bytes of one record. -/
theorem existsUnique_encode_iff {bytes : ByteArray} :
    (∃! r : FunctionRecord, r.encode = bytes) ↔ bytes.size = byteCount := by
  rw [← exists_decode?_iff]
  constructor
  · rintro ⟨r, hencode, -⟩
    exact ⟨r, decode?_eq_some_iff.2 hencode⟩
  · rintro ⟨r, hdecode⟩
    refine ⟨r, decode?_eq_some_iff.1 hdecode, fun other hother => ?_⟩
    have hsame := (decode?_eq_some_iff.2 hother).symm.trans hdecode
    exact Option.some.inj hsame

end FunctionRecord

end RawProfile

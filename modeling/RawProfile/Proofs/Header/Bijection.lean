import Mathlib.Data.Int.ModEq
import RawProfile.Layout
import RawProfile.Proofs.Header.Codec

/-!
# Headers and their bytes

A header is 112 bytes and 112 bytes are a header. `Field` names the fourteen words and says where
each one stands (`getElem?_encode`), `decode?_eq_some_iff` that decoding finds exactly the headers
that are encoded so, and `encode_bijective` puts the two together. It also reads off what a header
made for a layout says about where the sections started.
-/

namespace RawProfile

theorem getElem?_littleEndian {n j : Nat} (h : j < n) (v : Nat) :
    (littleEndian n v)[j]? = some (UInt8.ofNat (v / 256 ^ j)) := by
  induction n generalizing j v with
  | zero => omega
  | succ n ih =>
    rw [littleEndian]
    cases j with
    | zero => simp
    | succ j => rw [List.getElem?_cons_succ, ih (by omega), Nat.div_div_eq_div_mul, Nat.pow_succ']

theorem getElem?_flatMap_wordBytes (ws : List UInt64) {i j : Nat} {w : UInt64}
    (hw : ws[i]? = some w) (hj : j < 8) :
    (ws.flatMap wordBytes)[8 * i + j]? = some (UInt8.ofNat (w.toNat / 256 ^ j)) := by
  induction ws generalizing i with
  | nil => simp at hw
  | cons first ws ih =>
    have hlength := length_wordBytes first
    rw [List.flatMap_cons]
    cases i with
    | zero =>
      obtain rfl : first = w := by simpa using hw
      rw [List.getElem?_append_left (by omega), wordBytes, Nat.mul_zero, Nat.zero_add]
      exact getElem?_littleEndian hj _
    | succ i =>
      rw [List.getElem?_append_right (by omega), hlength,
        show 8 * (i + 1) + j - 8 = 8 * i + j by omega]
      exact ih (by simpa using hw)

theorem toInt_modEq_iff {o : Int64} {w : UInt64} :
    o.toInt ≡ w.toNat [ZMOD 2 ^ 64] ↔ o = w.toInt64 := by
  have ho := toInt_toInt64_emod o.toUInt64
  have hw := w.toNat_lt
  rw [Int64.toInt64_toUInt64] at ho
  simp only [UInt64.size] at ho
  unfold Int.ModEq
  constructor
  · intro h
    have hsame : o.toUInt64 = w := UInt64.toNat_inj.1 (by omega)
    rw [← hsame, Int64.toInt64_toUInt64]
  · rintro rfl
    rw [UInt64.toUInt64_toInt64] at ho
    omega

namespace Header

/-- A word of the header, by its name. -/
inductive Field where
  | magic
  | version
  | binaryIdsSize
  | numRecords
  | paddingBeforeCounters
  | numCounters
  | paddingAfterCounters
  | numBitmapBytes
  | paddingAfterBitmap
  | namesSize
  | countersDelta
  | bitmapDelta
  | namesStart
  | lastValueKind
  deriving DecidableEq, Repr

namespace Field

def fileOrder : List Field :=
  [magic, version, binaryIdsSize, numRecords, paddingBeforeCounters, numCounters,
    paddingAfterCounters, numBitmapBytes, paddingAfterBitmap, namesSize, countersDelta, bitmapDelta,
    namesStart, lastValueKind]

def get (h : Header) : Field → UInt64
  | magic => h.magic
  | version => h.version
  | binaryIdsSize => h.binaryIdsSize
  | numRecords => h.numRecords
  | paddingBeforeCounters => h.paddingBeforeCounters
  | numCounters => h.numCounters
  | paddingAfterCounters => h.paddingAfterCounters
  | numBitmapBytes => h.numBitmapBytes
  | paddingAfterBitmap => h.paddingAfterBitmap
  | namesSize => h.namesSize
  | countersDelta => h.countersDelta
  | bitmapDelta => h.bitmapDelta
  | namesStart => h.namesStart
  | lastValueKind => h.lastValueKind

theorem existsUnique_place (f : Field) : ∃! i : Nat, fileOrder[i]? = some f := by
  have hnodup : fileOrder.Nodup := by decide
  have hmem : f ∈ fileOrder := by cases f <;> decide
  obtain ⟨i, hi⟩ := List.mem_iff_getElem?.1 hmem
  refine ⟨i, hi, fun other hother => ?_⟩
  obtain ⟨hlt, -⟩ := List.getElem?_eq_some_iff.1 hother
  exact (List.getElem?_inj hlt hnodup).1 (hother.trans hi.symm)

end Field

theorem words_eq (h : Header) : h.words = Field.fileOrder.map (·.get h) := rfl

/-- A byte of an encoded header is a byte of the field that stands there, the least significant one
first. -/
theorem getElem?_encode (h : Header) {i j : Nat} {f : Field} (hf : Field.fileOrder[i]? = some f)
    (hj : j < 8) :
    h.encode.data[8 * i + j]? = some (UInt8.ofNat ((f.get h).toNat / 256 ^ j)) := by
  have hword : h.words[i]? = some (f.get h) := by
    rw [words_eq, List.getElem?_map, hf]
    rfl
  rw [encode, wordsBytes_eq, List.data_toByteArray, List.getElem?_toArray]
  exact getElem?_flatMap_wordBytes h.words hword hj

/-! ## Decoding -/

theorem length_words? (n : Nat) (bs : List UInt8) : (decode?.words? n bs).length = n := by
  induction n generalizing bs with
  | zero => rfl
  | succ n ih => rw [decode?.words?, List.length_cons, ih]

theorem flatMap_words? {n : Nat} {bs : List UInt8} (h : bs.length = 8 * n) :
    (decode?.words? n bs).flatMap wordBytes = bs := by
  induction n generalizing bs with
  | zero => simpa [decode?.words?] using (List.length_eq_zero_iff.1 h).symm
  | succ n ih =>
    have hfirst : (bs.take 8).length = 8 := by rw [List.length_take]; omega
    have hrest : (bs.drop 8).length = 8 * n := by rw [List.length_drop]; omega
    rw [decode?.words?, List.flatMap_cons, wordBytes_wordOfBytes hfirst, ih hrest,
      List.take_append_drop]

/-- Fourteen words make a header, and no other number of words does. -/
theorem exists_words_iff {ws : List UInt64} : (∃ h : Header, h.words = ws) ↔ ws.length = 14 := by
  constructor
  · rintro ⟨h, rfl⟩
    exact h.length_words
  · intro hlength
    match ws, hlength with
    | [_, _, _, _, _, _, _, _, _, _, _, _, _, _], _ =>
      exact ⟨⟨_, _, _, _, _, _, _, _, _, _, _, _, _, _⟩, rfl⟩

theorem decode?_eq_some_iff {bytes : ByteArray} {h : Header} :
    decode? bytes = some h ↔ h.encode = bytes := by
  constructor
  · intro hdecode
    unfold decode? at hdecode
    split at hdecode
    · next hsize =>
      obtain ⟨h', hwords⟩ := exists_words_iff.2 (length_words? wordCount bytes.data.toList)
      rw [← hwords, ofWords?_words] at hdecode
      cases hdecode
      apply ByteArray.ext
      rw [encode, hwords, wordsBytes_eq, flatMap_words? hsize, List.data_toByteArray,
        Array.toArray_toList]
    · cases hdecode
  · rintro rfl
    exact decode?_encode h

theorem exists_decode?_iff {bytes : ByteArray} :
    (∃ h, decode? bytes = some h) ↔ bytes.size = 112 := by
  constructor
  · rintro ⟨h, hdecode⟩
    rw [← decode?_eq_some_iff.1 hdecode, size_encode]
    rfl
  · intro hsize
    obtain ⟨h, hwords⟩ := exists_words_iff.2 (length_words? wordCount bytes.data.toList)
    exact ⟨h, by rw [decode?, if_pos (show bytes.size = byteCount from hsize), ← hwords,
      ofWords?_words]⟩

/-- Encoding is a bijection between headers and strings of 112 bytes, and each field has a place of
its own in them. What a header for a layout says about the starts of the sections can be read back:
distances modulo `2 ^ 64`, of which the one to the counters is also known as a signed number. -/
theorem encode_bijective :
    (∀ h : Header, h.encode.size = 112 ∧ decode? h.encode = some h ∧
      ∀ (i : Nat) f, Field.fileOrder[i]? = some f → ∀ j < 8,
        h.encode.data[8 * i + j]? = some (UInt8.ofNat ((f.get h).toNat / 256 ^ j))) ∧
    (∀ f, ∃! i : Nat, Field.fileOrder[i]? = some f) ∧
    (∀ bytes : ByteArray, bytes.size = 112 ↔ ∃! h : Header, h.encode = bytes) ∧
    ∀ (l : Layout) (width : Width) (starts : SectionStarts), ∃ h,
      decode? (l.header width starts).encode = some h ∧
      (h.countersDelta.toNat + starts.data.toNat) % 2 ^ 64 = starts.counters.toNat ∧
      (h.bitmapDelta.toNat + starts.data.toNat) % 2 ^ 64 = starts.bitmap.toNat ∧
      (∀ o : Int64, o.toInt ≡ h.countersDelta.toNat [ZMOD 2 ^ 64] ↔ o = h.countersOffset) ∧
      h.namesStart = starts.names := by
  refine ⟨fun h => ⟨h.size_encode, decode?_encode h, fun i f hf j hj => h.getElem?_encode hf hj⟩,
    Field.existsUnique_place, ?_, ?_⟩
  · intro bytes
    rw [← exists_decode?_iff]
    constructor
    · rintro ⟨h, hdecode⟩
      refine ⟨h, decode?_eq_some_iff.1 hdecode, fun other hother => ?_⟩
      have hsame := (decode?_eq_some_iff.2 hother).symm.trans hdecode
      exact Option.some.inj hsame
    · rintro ⟨h, hencode, -⟩
      exact ⟨h, decode?_eq_some_iff.2 hencode⟩
  · intro l width starts
    have hdistance (a b : UInt64) : ((a - b).toNat + b.toNat) % 2 ^ 64 = a.toNat := by
      rw [← UInt64.toNat_add, UInt64.sub_add_cancel]
    exact ⟨l.header width starts, decode?_encode _, hdistance _ _, hdistance _ _,
      fun o => toInt_modEq_iff, rfl⟩

end Header

end RawProfile

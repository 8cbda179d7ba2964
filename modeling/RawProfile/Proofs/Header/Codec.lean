import RawProfile.Header

/-!
# Reading headers back

`decode?_encode`: every header is read back from its own bytes. `words?_flatMap` reads the words one
by one.
-/

namespace RawProfile

namespace Header

theorem words?_flatMap (ws : List UInt64) (rest : List UInt8) :
    decode?.words? ws.length (ws.flatMap wordBytes ++ rest) = ws := by
  induction ws with
  | nil => rfl
  | cons w ws ih =>
    have hlength := length_wordBytes w
    rw [List.flatMap_cons, List.append_assoc, List.length_cons, decode?.words?,
      List.take_left' hlength, List.drop_left' hlength, wordOfBytes_wordBytes, ih]

theorem decode?_encode (h : Header) : decode? h.encode = some h := by
  have hwords : decode?.words? wordCount h.encode.data.toList = h.words := by
    rw [encode, wordsBytes_eq, List.data_toByteArray, ← List.append_nil (List.toArray _).toList]
    exact words?_flatMap h.words []
  rw [decode?, if_pos h.size_encode, hwords, ofWords?_words]

end Header

end RawProfile

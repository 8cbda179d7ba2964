/-!
# Cutting text at byte positions

Positions in a text count the bytes of its encoding, in which a character takes one to four bytes. A
text can be cut only between two characters.
-/

namespace RawProfile.Text

def dropBytes? : List Char → (n : Nat) → Option (List Char)
  | cs, 0 => some cs
  | [], _ + 1 => none
  | c :: cs, n => if c.utf8Size ≤ n then dropBytes? cs (n - c.utf8Size) else none

def takeBytes? : List Char → (n : Nat) → Option (List Char)
  | _, 0 => some []
  | [], _ + 1 => none
  | c :: cs, n =>
    if c.utf8Size ≤ n then (takeBytes? cs (n - c.utf8Size)).map (c :: ·) else none

def cut? (cs : List Char) (first last : Nat) : Option (List Char) :=
  (dropBytes? cs first).bind (takeBytes? · (last - first))

end RawProfile.Text

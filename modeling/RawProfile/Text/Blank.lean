import RawProfile.Text.CodeRange

/-!
# Blanks

The characters that count as white space.
-/

namespace RawProfile.Text

def blanks : List CodeRange :=
  [(0x9, 0xd), (0x20, 0x20), (0x85, 0x85), (0xa0, 0xa0), (0x1680, 0x1680), (0x2000, 0x200a),
    (0x2028, 0x2029), (0x202f, 0x202f), (0x205f, 0x205f), (0x3000, 0x3000)]

def isBlank (c : Char) : Bool := CodeRange.anyContains blanks c

/-- Blanks at the end of a text are dropped. -/
def trimEnd (cs : List Char) : List Char := (cs.reverse.dropWhile isBlank).reverse

def trim (cs : List Char) : List Char := trimEnd (cs.dropWhile isBlank)

end RawProfile.Text

/-!
# Ranges of code points

A class of characters is given as a list of closed ranges of code points, in ascending order and
apart. The tables that use it follow version 17 of the Unicode standard.
-/

namespace RawProfile

/-- The code points from the first to the last one. -/
abbrev CodeRange : Type := Nat × Nat

def CodeRange.anyContains (ranges : List CodeRange) (c : Char) : Bool :=
  ranges.any fun r => r.1 ≤ c.toNat && c.toNat ≤ r.2

end RawProfile

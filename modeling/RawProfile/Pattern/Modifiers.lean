/-!
# Modifiers

Letters after a question mark switch how a pattern is read and what it can hold. Most switches
change only what is matched; the three that decide whether a pattern can be read and used are kept.
-/

namespace RawProfile

/-- The switches that decide whether a pattern can be read and used. -/
structure Modifiers where
  ignoreCase : Bool := false
  /-- Characters are those of the whole standard, and not bytes. -/
  wide : Bool := true
  spaced : Bool := false
  deriving DecidableEq, Repr

namespace Modifiers

/-- The letters of all switches, and the dash after which they are switched off. -/
def letters : List Char := ['i', 'm', 's', 'U', 'u', 'R', 'x', '-']

def turn (m : Modifiers) (on : Bool) : Char → Modifiers
  | 'i' => { m with ignoreCase := on }
  | 'u' => { m with wide := on }
  | 'x' => { m with spaced := on }
  | _ => m

/-- Switches are turned on, and those after the dash off. -/
def apply (m : Modifiers) : List Char → Modifiers := go true m
where
  go (on : Bool) (m : Modifiers) : List Char → Modifiers
    | [] => m
    | '-' :: cs => go false m cs
    | c :: cs => go on (m.turn on c) cs

end Modifiers

end RawProfile

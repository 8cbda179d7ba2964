/-!
# Patterns

Patterns for the values in a log filter, as they are read from text. Only their shape is kept: a
pattern is checked and never matched.
-/

namespace RawProfile

inductive CharacterSet where
  | nothing
  | literal (c : Char)
  | range (first last : Char)
  /-- A class with a name between colons, such as that of the letters. -/
  | named (negated : Bool)
  /-- Digits, blanks or word characters, by a letter after a backslash. -/
  | shorthand (negated : Bool)
  | bracket (negated : Bool) (members : CharacterSet)
  /-- Members side by side, at least two. -/
  | union (members : List CharacterSet)
  /-- Two sets with an intersection or a difference of theirs between them. -/
  | combined (left right : CharacterSet)

inductive Pattern where
  | nothing
  /-- Letters that switch the reading of the rest of the group on, or off after a dash. -/
  | switches (letters : List Char)
  | literal (c : Char)
  | byte (c : Char)
  | anyCharacter
  | anchor
  | wordBoundary
  /-- Digits, blanks or word characters, by a letter after a backslash. -/
  | shorthand (negated : Bool)
  | oneOf (s : CharacterSet)
  | repeated (p : Pattern)
  /-- A group; the switches hold within it. -/
  | group (letters : List Char) (p : Pattern)
  | sequence (items : List Pattern)
  | choice (branches : List Pattern)

namespace CharacterSet

def ofMembers : List CharacterSet → CharacterSet
  | [] => nothing
  | [s] => s
  | members => union members

mutual

/-- The most brackets, unions and combinations around a member. -/
def height : CharacterSet → Nat
  | .bracket _ members => members.height + 1
  | .union members => maxHeight members + 1
  | .combined left right => max left.height right.height + 1
  | _ => 0

def maxHeight : List CharacterSet → Nat
  | [] => 0
  | s :: rest => max s.height (maxHeight rest)

end

end CharacterSet

namespace Pattern

def ofItems : List Pattern → Pattern
  | [] => nothing
  | [p] => p
  | items => sequence items

def ofBranches : List Pattern → Pattern
  | [] => nothing
  | [p] => p
  | branches => choice branches

/-- A sign of repetition has to follow something that can be repeated. -/
def isRepeatable : Pattern → Bool
  | .nothing => false
  | .switches _ => false
  | _ => true

mutual

/-- The most compound patterns around a simple one. -/
def height : Pattern → Nat
  | .oneOf s => s.height
  | .repeated p => p.height + 1
  | .group _ p => p.height + 1
  | .sequence items => maxHeight items + 1
  | .choice branches => maxHeight branches + 1
  | _ => 0

def maxHeight : List Pattern → Nat
  | [] => 0
  | p :: rest => max p.height (maxHeight rest)

end

end Pattern

end RawProfile

import RawProfile.Pattern.Modifiers
import RawProfile.Pattern.Syntax

/-!
# Usable patterns

A pattern that can be read is not always one that can be used. Outside of ASCII there are neither
classes of characters nor pairs of letters that differ in case, so a wide pattern can hold nothing
that needs them. A pattern for bytes, in turn, may not match a byte outside of ASCII.
-/

namespace RawProfile

/-- A character that can be a member of a set, or the end of a range. -/
def Modifiers.allowMember (m : Modifiers) (c : Char) : Bool :=
  if m.wide then !m.ignoreCase else c.toNat < 0x80

namespace CharacterSet

mutual

def isUsable (m : Modifiers) : CharacterSet → Bool
  | .nothing => true
  | .literal c => m.allowMember c
  | .range first last => m.allowMember first && m.allowMember last
  | .named negated => if m.wide then !m.ignoreCase else !negated
  | .shorthand negated => !m.wide && !negated
  | .bracket negated members => (m.wide || !negated) && members.isUsable m
  | .union members => areUsable m members
  | .combined left right => left.isUsable m && right.isUsable m

def areUsable (m : Modifiers) : List CharacterSet → Bool
  | [] => true
  | s :: rest => s.isUsable m && areUsable m rest

end

end CharacterSet

namespace Pattern

mutual

/-- The modifiers after a pattern that can be used, given those before it. -/
def after? (m : Modifiers) : Pattern → Option Modifiers
  | .nothing => some m
  | .switches letters => some (m.apply letters)
  | .literal _ => if m.wide && m.ignoreCase then none else some m
  | .byte c => if m.allowMember c then some m else none
  | .anyCharacter => if m.wide then some m else none
  | .anchor => some m
  | .wordBoundary => if m.wide then none else some m
  | .shorthand negated => if m.wide || negated then none else some m
  | .oneOf s => if s.isUsable m then some m else none
  | .repeated p => p.after? m
  | .group letters p => (p.after? (m.apply letters)).map fun _ => m
  | .sequence items => afterAll? m items
  | .choice branches => afterAll? m branches

/-- Modifiers that are switched in one pattern hold in those that follow it. -/
def afterAll? (m : Modifiers) : List Pattern → Option Modifiers
  | [] => some m
  | p :: rest => do afterAll? (← p.after? m) rest

end

/-- Patterns are not nested deeper than this. -/
def maxNesting : Nat := 250

def isUsable (p : Pattern) : Bool := p.height ≤ maxNesting && (p.after? {}).isSome

end Pattern

end RawProfile

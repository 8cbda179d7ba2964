import RawProfile.Pattern.Usable
import RawProfile.Text.Blank
import RawProfile.Text.Numeral

/-!
# Reading patterns

A reader for the text of patterns: alternatives between bars, items one after the other, signs of
repetition, groups in parentheses and sets in brackets. A closing brace is read as any other
character, but a pattern within a log filter cannot close a brace that it opened, so an opening
brace that would start a count or a number is refused.
-/

namespace RawProfile.Pattern

/-! ## Blanks and comments -/

/-- What follows blanks and comments; a comment goes from a number sign to the end of its line. -/
def skipBlanks (inComment : Bool) : List Char → List Char
  | [] => []
  | c :: cs =>
    if inComment then skipBlanks (c != '\n') cs
    else if c = '#' then skipBlanks true cs
    else if Text.isBlank c then skipBlanks false cs
    else c :: cs

/-- What follows blanks and comments where these do not count. -/
def skip (spaced : Bool) (cs : List Char) : List Char := if spaced then skipBlanks false cs else cs

/-- The character that shows whether a dash makes a range. Of a comment before it only the number
sign and blanks are skipped. -/
def peek? (spaced : Bool) (cs : List Char) : Option Char :=
  if spaced then
    match cs.dropWhile Text.isBlank with
    | '#' :: comment => ((comment.dropWhile Text.isBlank).head?).or cs.head?
    | rest => rest.head?.or cs.head?
  else cs.head?

/-! ## Escapes -/

def hexDigit? (c : Char) : Option Nat :=
  if '0' ≤ c ∧ c ≤ '9' then some (c.toNat - '0'.toNat)
  else if 'a' ≤ c ∧ c ≤ 'f' then some (c.toNat - 'a'.toNat + 10)
  else if 'A' ≤ c ∧ c ≤ 'F' then some (c.toNat - 'A'.toNat + 10)
  else none

def hexNumber? (spaced : Bool) : (digits value : Nat) → List Char → Option (Nat × List Char)
  | 0, value, cs => some (value, cs)
  | _ + 1, _, [] => none
  | n + 1, value, c :: cs => do
    hexNumber? spaced n (16 * value + (← hexDigit? c)) (skip spaced cs)

def character? (n : Nat) : Option Char := if n.isValidChar then some (Char.ofNat n) else none

/-- Characters that stand for themselves after a backslash: all of ASCII that is no letter, no digit
and no angle bracket. -/
def isEscapable (c : Char) : Bool :=
  c.toNat < 0x80 && !c.isAlphanum && c != '<' && c != '>'

/-- Characters that have a letter of their own. -/
def letterEscape? : Char → Option Char
  | 'a' => some '\x07'
  | 'f' => some '\x0c'
  | 't' => some '\t'
  | 'n' => some '\n'
  | 'r' => some '\r'
  | 'v' => some '\x0b'
  | _ => none

/-- Reads what follows a backslash. There are no references to groups and no properties. -/
def escape? (spaced : Bool) : List Char → Option (Pattern × List Char)
  | [] => none
  | c :: cs =>
    if c = 'x' then do
      let (n, rest) ← hexNumber? spaced 2 0 (skip spaced cs)
      return (.byte (← character? n), rest)
    else if c = 'u' ∨ c = 'U' then do
      let (n, rest) ← hexNumber? spaced (if c = 'u' then 4 else 8) 0 (skip spaced cs)
      return (.literal (← character? n), rest)
    else if isEscapable c then some (.literal c, cs)
    else if c ∈ ['d', 's', 'w'] then some (.shorthand false, cs)
    else if c ∈ ['D', 'S', 'W'] then some (.shorthand true, cs)
    else if c ∈ ['A', 'z'] then some (.anchor, cs)
    else if c ∈ ['b', 'B', '<', '>'] then some (.wordBoundary, cs)
    else (letterEscape? c).map fun l => (.literal l, cs)

/-! ## Sets -/

def classNames : List (List Char) :=
  ["alnum", "alpha", "ascii", "blank", "cntrl", "digit", "graph", "lower", "print", "punct",
    "space", "upper", "word", "xdigit"].map String.toList

/-- Reads a named class, after the bracket that opens it. -/
def namedClass? : List Char → Option (CharacterSet × List Char)
  | ':' :: cs =>
    let (negated, cs) := match cs with
      | '^' :: cs => (true, cs)
      | _ => (false, cs)
    match cs.dropWhile (· != ':') with
    | ':' :: ']' :: rest =>
      if cs.takeWhile (· != ':') ∈ classNames then some (.named negated, rest) else none
    | _ => none
  | _ => none

def member? (spaced : Bool) : List Char → Option (Pattern × List Char)
  | [] => none
  | '\\' :: cs => escape? spaced cs
  | c :: cs => some (.literal c, cs)

/-- A character that can be the end of a range. -/
def rangeEnd? : Pattern → Option Char
  | .literal c => some c
  | .byte c => some c
  | _ => none

def asMember? : Pattern → Option CharacterSet
  | .literal c => some (.literal c)
  | .byte c => some (.literal c)
  | .shorthand negated => some (.shorthand negated)
  | _ => none

/-- Reads a member of a set or a range. A dash makes a range, unless the set ends after it or
another dash follows. -/
def memberOrRange? (spaced : Bool) (cs : List Char) : Option (CharacterSet × List Char) := do
  let (first, cs) ← member? spaced cs
  match skip spaced cs with
  | [] => none
  | '-' :: cs =>
    if peek? spaced cs = some ']' ∨ peek? spaced cs = some '-' then
      return (← asMember? first, '-' :: cs)
    else
      let (last, cs) ← member? spaced (skip spaced cs)
      let first ← rangeEnd? first
      let last ← rangeEnd? last
      if first ≤ last then return (.range first last, cs) else none
  | cs => return (← asMember? first, cs)

/-- The members of a set so far, the last one first. -/
structure SetDraft where
  /-- What stands before the last sign that combines two sets. -/
  left : Option CharacterSet := none
  members : List CharacterSet := []
  atStart : Bool := true

namespace SetDraft

def add (d : SetDraft) (s : CharacterSet) : SetDraft :=
  { d with members := s :: d.members, atStart := false }

def close (d : SetDraft) : CharacterSet :=
  let right := .ofMembers d.members.reverse
  match d.left with
  | none => right
  | some left => .combined left right

/-- The set as it stands is to be combined with what follows. -/
def combine (d : SetDraft) : SetDraft := { left := some d.close, atStart := false }

end SetDraft

mutual

/-- Reads a set on to the bracket that closes it. Dashes at the start are members, and so is a
closing bracket in the first place. -/
def readMembers (spaced : Bool) : (fuel : Nat) → SetDraft → List Char →
    Option (CharacterSet × List Char)
  | 0, _, _ => none
  | fuel + 1, d, cs =>
    match skip spaced cs with
    | [] => none
    | ']' :: cs =>
      if d.atStart && d.members.isEmpty then readMembers spaced fuel (d.add (.literal ']')) cs
      else some (d.close, cs)
    | '[' :: cs =>
      match namedClass? cs with
      | some (s, cs) => readMembers spaced fuel (d.add s) cs
      | none => do
        let (s, cs) ← readSet spaced fuel cs
        readMembers spaced fuel (d.add s) cs
    | c :: cs =>
      if c = '-' ∧ d.atStart then
        readMembers spaced fuel { d with members := .literal '-' :: d.members } cs
      else if c ∈ ['&', '-', '~'] ∧ cs.head? = some c then
        readMembers spaced fuel d.combine (cs.drop 1)
      else do
        let (s, cs) ← memberOrRange? spaced (c :: cs)
        readMembers spaced fuel (d.add s) cs

/-- Reads a set after the bracket that opens it; a caret negates it. -/
def readSet (spaced : Bool) : (fuel : Nat) → List Char → Option (CharacterSet × List Char)
  | 0, _ => none
  | fuel + 1, cs => do
    let (negated, cs) := match skip spaced cs with
      | '^' :: cs => (true, cs)
      | cs => (false, cs)
    let (s, cs) ← readMembers spaced fuel {} cs
    return (.bracket negated s, cs)

end

/-! ## Groups -/

/-- Reads the letters of switches up to a colon or a closing parenthesis, which comes with them. No
letter is given twice, and a dash is not the last. -/
def switches? (seen : List Char) : List Char → Option (List Char × Char × List Char)
  | [] => none
  | c :: cs =>
    if c = ':' ∨ c = ')' then
      if seen.head? = some '-' then none else some (seen.reverse, c, cs)
    else if c ∈ Modifiers.letters ∧ c ∉ seen then switches? (c :: seen) cs
    else none

def groupName? (cs : List Char) : Option (List Char × List Char) :=
  match cs.takeWhile (· != '>'), cs.dropWhile (· != '>') with
  | c :: name, _ :: rest =>
    if startsName c ∧ name.all continuesName then some (c :: name, rest) else none
  | _, _ => none
where
  startsName (c : Char) : Bool := c == '_' || Text.isLetter c
  continuesName (c : Char) : Bool := c ∈ ['_', '.', '[', ']'] || Text.isAlphanumeric c

/-- The reading of a pattern, between two of its items. -/
structure Scan where
  rest : List Char
  spaced : Bool := false
  /-- The names of groups so far; each one is given once. -/
  names : List (List Char) := []

namespace Scan

/-- Reads on from other text. -/
def resume (s : Scan) (rest : List Char) : Scan := { s with rest }

def switched (s : Scan) (letters : List Char) : Scan :=
  { s with spaced := (Modifiers.apply { spaced := s.spaced } letters).spaced }

end Scan

mutual

/-- Reads items up to a bar, a closing parenthesis or the end; those before come in reverse
order. -/
def readItems : (fuel : Nat) → (items : List Pattern) → Scan → Option (Pattern × Scan)
  | 0, _, _ => none
  | fuel + 1, items, s =>
    match skip s.spaced s.rest with
    | [] => some (.ofItems items.reverse, s.resume [])
    | '(' :: cs => do
      let (p, s) ← readGroup fuel (s.resume (skip s.spaced cs))
      readItems fuel (p :: items) s
    | '[' :: cs => do
      let (set, cs) ← readSet s.spaced fuel cs
      readItems fuel (.oneOf set :: items) (s.resume cs)
    | '\\' :: cs => do
      let (p, cs) ← escape? s.spaced cs
      readItems fuel (p :: items) (s.resume cs)
    | c :: cs =>
      if c = '|' ∨ c = ')' then some (.ofItems items.reverse, s.resume (c :: cs))
      else if c ∈ ['?', '*', '+'] then
        match items with
        | p :: items =>
          if p.isRepeatable then
            readItems fuel (.repeated p :: items)
              (s.resume (if cs.head? = some '?' then cs.drop 1 else cs))
          else none
        | [] => none
      else if c = '\x7b' then none
      else if c = '.' then readItems fuel (.anyCharacter :: items) (s.resume cs)
      else if c = '^' ∨ c = '$' then readItems fuel (.anchor :: items) (s.resume cs)
      else readItems fuel (.literal c :: items) (s.resume cs)

/-- Reads branches with bars between them; those before come in reverse order. -/
def readBranches : (fuel : Nat) → (branches : List Pattern) → Scan → Option (Pattern × Scan)
  | 0, _, _ => none
  | fuel + 1, branches, s => do
    let (p, s) ← readItems fuel [] s
    match s.rest with
    | '|' :: cs => readBranches fuel (p :: branches) (s.resume cs)
    | _ => return (.ofBranches (p :: branches).reverse, s)

/-- Reads a group after the parenthesis that opens it, or switches for the rest of the group that
they stand in. There is no looking around. -/
def readGroup : (fuel : Nat) → Scan → Option (Pattern × Scan)
  | 0, _ => none
  | fuel + 1, s =>
    match s.rest with
    | '?' :: '=' :: _ => none
    | '?' :: '!' :: _ => none
    | '?' :: '<' :: '=' :: _ => none
    | '?' :: '<' :: '!' :: _ => none
    | '?' :: '<' :: cs => readNamed fuel (s.resume cs)
    | '?' :: 'P' :: '<' :: cs => readNamed fuel (s.resume cs)
    | '?' :: cs => do
      let (letters, last, cs) ← switches? [] cs
      if last = ')' then
        if letters = [] then none else return (.switches letters, (s.resume cs).switched letters)
      else readBody fuel letters s.spaced ((s.resume cs).switched letters)
    | _ => readBody fuel [] s.spaced s

def readNamed : (fuel : Nat) → Scan → Option (Pattern × Scan)
  | 0, _ => none
  | fuel + 1, s => do
    let (name, cs) ← groupName? s.rest
    if name ∈ s.names then none
    else readBody fuel [] s.spaced { s with rest := cs, names := name :: s.names }

def readBody : (fuel : Nat) → (letters : List Char) → (outerSpaced : Bool) → Scan →
    Option (Pattern × Scan)
  | 0, _, _, _ => none
  | fuel + 1, letters, outerSpaced, s => do
    let (p, s) ← readBranches fuel [] s
    match s.rest with
    | ')' :: cs => return (.group letters p, { s with rest := cs, spaced := outerSpaced })
    | _ => none

end

/-- Reads a pattern. The reader makes at most four steps on each character. -/
def read? (text : List Char) : Option Pattern := do
  let (p, s) ← readBranches (4 * text.length + 4) [] { rest := text }
  if s.rest = [] then return p else none

def isUsableText (text : List Char) : Bool := (read? text).any Pattern.isUsable

end RawProfile.Pattern

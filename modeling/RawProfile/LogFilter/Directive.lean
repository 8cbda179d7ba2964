import RawProfile.LogFilter.Number
import RawProfile.Pattern.Reader
import RawProfile.Text.Blank
import RawProfile.Text.Cut
import RawProfile.Text.Numeral

/-!
# Directives of a log filter

A directive is a level, or a target with an optional span in brackets and an optional level after an
equals sign. A span can have a field in braces, and the field a value, which is a number or a
pattern. The signs are looked for in the directive without the blanks around it, but the pieces
between them are cut, at the same byte positions, out of the directive as it was given: after blanks
at the start each piece comes too early by as much.
-/

namespace RawProfile.LogFilter

/-- Why a filter was not read. -/
inductive Fault where
  | malformed
  /-- A piece would have started or ended within a character. -/
  | torn
  deriving DecidableEq, Repr

def levelNames : List (List Char) :=
  ["error", "warn", "info", "debug", "trace", "off"].map String.toList

/-- A level is named, in capitals or not, or is a number up to five; it can also be left out. -/
def isLevel (cs : List Char) : Bool :=
  match count? cs with
  | some n => n ≤ 5
  | none => cs.isEmpty || levelNames.contains (cs.map Char.toLower)

/-- A character with which a target can start. -/
def startsTarget (c : Char) : Bool :=
  Text.isAlphanumeric c || c == '-' || c == ':' || c == '_'

def isValue (cs : List Char) : Bool := isNumber cs || Pattern.isUsableText cs

/-- A field has a name, and a value after an equals sign; what follows another equals sign does not
count. -/
def isField (cs : List Char) : Bool :=
  !cs.isEmpty &&
    match cs.dropWhile (· != '=') with
    | _ :: value => isValue (value.takeWhile (· != '='))
    | [] => true

/-- What is being read, with the position at which it started. -/
inductive State where
  | start
  | target
  | span (first : Nat)
  | field (first : Nat)
  /-- The brace after a field was read. -/
  | fieldEnd
  /-- The bracket after a span was read. -/
  | spanEnd
  | level (first : Nat)
  deriving DecidableEq, Repr

def piece (text : List Char) (first last : Nat) : Except Fault (List Char) :=
  match Text.cut? text first last with
  | some cs => .ok cs
  | none => .error .torn

/-- The piece of a text from a position on. -/
def pieceFrom (text : List Char) (first : Nat) : Except Fault (List Char) :=
  match Text.dropBytes? text first with
  | some cs => .ok cs
  | none => .error .torn

def require (holds : Bool) : Except Fault Unit := if holds then .ok () else .error .malformed

/-- Reads on from a position; the pieces are cut out of the text. -/
def readFrom (text : List Char) : State → (position : Nat) → List Char → Except Fault Unit
  | .start, _, [] => .error .malformed
  | .start, i, c :: cs =>
    if c = '[' then readFrom text (.span (i + 1)) (i + 1) cs
    else if startsTarget c then readFrom text .target (i + c.utf8Size) cs
    else .error .malformed
  | .target, _, [] => .ok ()
  | .target, i, c :: cs =>
    if c = '=' then do
      let _ ← piece text 0 i
      readFrom text (.level (i + 1)) (i + 1) cs
    else if c = '[' then do
      let _ ← piece text 0 i
      readFrom text (.span (i + 1)) (i + 1) cs
    else readFrom text .target (i + c.utf8Size) cs
  | .span _, _, [] => .error .malformed
  | .span first, i, c :: cs =>
    if c = ']' then do
      let _ ← piece text first i
      readFrom text .spanEnd (i + 1) cs
    else if c = '\x7b' then do
      let _ ← piece text first i
      readFrom text (.field (i + 1)) (i + 1) cs
    else readFrom text (.span first) (i + c.utf8Size) cs
  | .field _, _, [] => .error .malformed
  | .field first, i, c :: cs =>
    if c = '\x7d' then do
      require (isField (← piece text first i))
      readFrom text .fieldEnd (i + 1) cs
    else readFrom text (.field first) (i + c.utf8Size) cs
  | .fieldEnd, _, [] => .error .malformed
  | .fieldEnd, i, c :: cs =>
    if c = ']' then readFrom text .spanEnd (i + 1) cs else .error .malformed
  | .spanEnd, _, [] => .ok ()
  | .spanEnd, i, c :: cs =>
    if c = '=' then readFrom text (.level (i + 1)) (i + 1) cs else .error .malformed
  | .level first, _, [] => do require (isLevel (← pieceFrom text first))
  | .level first, i, c :: cs => readFrom text (.level first) (i + c.utf8Size) cs

def readDirective (text : List Char) : Except Fault Unit :=
  readFrom text .start 0 (Text.trim text)

end RawProfile.LogFilter

/-!
# Numbers

Decimal numbers as they may stand in a log filter: counts, and values with a fraction or an
exponent.
-/

namespace RawProfile.LogFilter

def count? (cs : List Char) : Option Nat :=
  let digits := match cs with
    | '+' :: rest => rest
    | _ => cs
  if digits ≠ [] ∧ digits.all Char.isDigit then
    some (digits.foldl (fun n c => 10 * n + (c.toNat - '0'.toNat)) 0)
  else none

def unsigned : List Char → List Char
  | '+' :: cs => cs
  | '-' :: cs => cs
  | cs => cs

/-- Nothing, or an exponent after its letter, with an optional sign. -/
def isExponent : List Char → Bool
  | [] => true
  | c :: cs =>
    let digits := unsigned cs
    (c == 'e' || c == 'E') && !digits.isEmpty && digits.all Char.isDigit

/-- Digits, with an optional point before, among or after them, and an optional exponent. -/
def isDecimal (cs : List Char) : Bool :=
  let whole := cs.takeWhile Char.isDigit
  let rest := cs.dropWhile Char.isDigit
  match rest with
  | '.' :: rest =>
    let fraction := rest.takeWhile Char.isDigit
    !(whole.isEmpty && fraction.isEmpty) && isExponent (rest.dropWhile Char.isDigit)
  | _ => !whole.isEmpty && isExponent rest

/-- The names of values that have no digits, in small letters. -/
def specialNames : List (List Char) := ["inf", "infinity", "nan"].map String.toList

def isNumber (cs : List Char) : Bool :=
  isDecimal (unsigned cs) || specialNames.contains ((unsigned cs).map Char.toLower)

end RawProfile.LogFilter

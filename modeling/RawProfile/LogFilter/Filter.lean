import RawProfile.LogFilter.Directive

/-!
# Log filters

A log filter is a list of directives between commas; empty ones are skipped. The filter decides
nothing about a profile file; all that matters is whether it can be read.
-/

namespace RawProfile.LogFilter

/-- The pieces of a text between the characters for which `cut` holds. -/
def splitAt (cut : Char → Bool) : List Char → List (List Char)
  | [] => [[]]
  | c :: cs =>
    if cut c then [] :: splitAt cut cs
    else match splitAt cut cs with
      | [] => [[c]]
      | p :: ps => (c :: p) :: ps

/-- Reads the directives of a filter up to the first that cannot be read. -/
def read (filter : String) : Except Fault Unit :=
  ((splitAt (· = ',') filter.toList).filter (· ≠ [])).forM readDirective

end RawProfile.LogFilter

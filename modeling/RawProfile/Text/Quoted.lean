import RawProfile.Text.Invisible

/-!
# Quoted text

Text between double quotes as a diagnostic shows it: quotes and backslashes are escaped, and so is
every character that has no shape, by a letter where it has one and by its number otherwise.
-/

namespace RawProfile.Text

/-- One character as it stands between the quotes. -/
def escape (c : Char) : List Char :=
  match c with
  | '"' => ['\\', '"']
  | '\\' => ['\\', '\\']
  | '\n' => ['\\', 'n']
  | '\r' => ['\\', 'r']
  | '\t' => ['\\', 't']
  | '\x00' => ['\\', '0']
  | c =>
    if isInvisible c then ['\\', 'u', '\x7b'] ++ Nat.toDigits 16 c.toNat ++ ['\x7d'] else [c]

def quoted (s : String) : String := "\"" ++ String.ofList (s.toList.flatMap escape) ++ "\""

end RawProfile.Text

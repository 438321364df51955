/-
This file writes text between quotes, with escapes for what cannot be seen.
-/

import Listings.Text.Number
import Listings.Text.Property.Unprintable

namespace Listings.Text

private def hexText (value : Nat) : List Char := Nat.toDigits 16 value

private def escapedChar (c : Char) : List Char :=
  if c == '"' || c == '\\' then ['\\', c]
  else if c == '\n' then ['\\', 'n']
  else if c == '\r' then ['\\', 'r']
  else if c == '\t' then ['\\', 't']
  else if c == '\x00' then ['\\', '0']
  else if isUnprintable c then ['\\', 'u', '\x7b'] ++ hexText c.toNat ++ ['\x7d']
  else [c]

/-- The text in double quotes; unprintable characters show their code points. -/
def quoted (text : String) : String :=
  String.ofList ('"' :: text.toList.flatMap escapedChar ++ ['"'])

end Listings.Text

/-
This file reads and writes colors.
-/

import Listings.Text.Number

namespace Listings

open Text

/-- Every part is a byte. -/
structure Color where
  red : Nat
  green : Nat
  blue : Nat
  alpha : Nat := 255
deriving DecidableEq, Repr

namespace Color

def black : Color := ⟨0, 0, 0, 255⟩
def white : Color := ⟨255, 255, 255, 255⟩

/-- Two digits make a byte, but of three digits each is a byte of its own. -/
def ofDigits? : List Nat → Option Color
  | [red, green, blue] => some ⟨red, green, blue, 255⟩
  | [r, red, g, green, b, blue] => some ⟨16 * r + red, 16 * g + green, 16 * b + blue, 255⟩
  | [r, red, g, green, b, blue, a, alpha] =>
      some ⟨16 * r + red, 16 * g + green, 16 * b + blue, 16 * a + alpha⟩
  | _ => none

def read? (text : String) : Option Color :=
  match text.toList with
  | '#' :: digits => (digits.mapM hexValue?).bind ofDigits?
  | _ => none

/-- An opaque color does not name its alpha. -/
def text (color : Color) : String :=
  let alpha := if color.alpha = 255 then [] else hexByte color.alpha
  String.ofList
    ('#' :: hexByte color.red ++ hexByte color.green ++ hexByte color.blue ++ alpha)

end Color

end Listings

/-
This file splits the info texts of code into languages and directives.
-/

import Listings.Text.Pieces

namespace Listings.Markdown

open Text

/-- What an info text says about code. -/
structure FenceInfo where
  language : Option (List Char) := none
  directive : List Char := []
deriving DecidableEq, Repr

/-- The language ends with the first blank; a blank text names none. -/
def FenceInfo.split (info : List Char) : FenceInfo :=
  let text := trim info
  if text.isEmpty then {}
  else
    match cutAt? isBlank text with
    | some (language, directive) => ⟨some language, trimStart directive⟩
    | none => ⟨some text, []⟩

end Listings.Markdown

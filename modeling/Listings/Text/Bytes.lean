/-
This file counts text in the bytes of its UTF-8 form.
-/

namespace Listings.Text

def byteLength : List Char → Nat
  | [] => 0
  | c :: rest => c.utf8Size + byteLength rest

/-- The characters that end within so many bytes. -/
def takeBytes : Nat → List Char → List Char
  | _, [] => []
  | bytes, c :: rest =>
      if c.utf8Size ≤ bytes then c :: takeBytes (bytes - c.utf8Size) rest else []

/-- The text without the characters that end within so many bytes. -/
def dropBytes : Nat → List Char → List Char
  | _, [] => []
  | bytes, c :: rest =>
      if c.utf8Size ≤ bytes then dropBytes (bytes - c.utf8Size) rest else c :: rest

/-- The text from one byte up to another. -/
def slice (first last : Nat) (text : List Char) : List Char :=
  takeBytes (last - first) (dropBytes first text)

end Listings.Text

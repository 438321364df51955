/-
This file cuts text into pieces, into words and at the first separator.
-/

namespace Listings.Text

/-- The characters of the Unicode property `White_Space`. -/
def isBlank (c : Char) : Bool :=
  let code := c.toNat
  (9 ≤ code && code ≤ 13) || code == 0x20 || code == 0x85 || code == 0xA0 || code == 0x1680 ||
    (0x2000 ≤ code && code ≤ 0x200A) || code == 0x2028 || code == 0x2029 || code == 0x202F ||
    code == 0x205F || code == 0x3000

/-- Every separator ends a piece, so there is one piece more than there are separators. -/
def pieces (separates : Char → Bool) : List Char → List (List Char)
  | [] => [[]]
  | c :: rest =>
      if separates c then [] :: pieces separates rest
      else
        match pieces separates rest with
        | [] => [[c]]
        | first :: more => (c :: first) :: more

/-- The maximal runs of characters that are not blank. -/
def words (text : List Char) : List (List Char) :=
  (pieces isBlank text).filter fun piece => !piece.isEmpty

/-- The lines of a text: every `\n` ends one, and the last may be empty. -/
def lines (text : List Char) : List (List Char) :=
  pieces (· == '\n') text

def trimStart (text : List Char) : List Char :=
  text.dropWhile isBlank

def trimEnd (text : List Char) : List Char :=
  (text.reverse.dropWhile isBlank).reverse

def trim (text : List Char) : List Char :=
  trimEnd (trimStart text)

/-- What stands before and after the first character that separates. -/
def cutAt? (separates : Char → Bool) (text : List Char) : Option (List Char × List Char) :=
  match text.dropWhile fun c => !separates c with
  | [] => none
  | _ :: rest => some (text.takeWhile fun c => !separates c, rest)

theorem length_cutAt? {separates : Char → Bool} {text before after : List Char}
    (found : cutAt? separates text = some (before, after)) : after.length < text.length := by
  unfold cutAt? at found
  split at found
  · simp at found
  · rename_i dropped
    have shorter := (List.dropWhile_sublist (l := text) fun c => !separates c).length_le
    simp only [Option.some.injEq, Prod.mk.injEq] at found
    rw [dropped] at shorter
    simp only [List.length_cons, found.2] at shorter
    omega

def dropStart? (start text : List Char) : Option (List Char) :=
  match start, text with
  | [], rest => some rest
  | _ :: _, [] => none
  | a :: start, b :: text => if a = b then dropStart? start text else none

def dropEnd? (last text : List Char) : Option (List Char) :=
  (dropStart? last.reverse text.reverse).map List.reverse

/-- What stands before and after the first place of a marker. -/
def cut? (marker : List Char) : List Char → Option (List Char × List Char)
  | [] => (dropStart? marker []).map fun after => ([], after)
  | c :: rest =>
      match dropStart? marker (c :: rest) with
      | some after => some ([], after)
      | none => (cut? marker rest).map fun sides => (c :: sides.1, sides.2)

/-- Removes one character from both ends, if both are there. -/
def unwrap? (first last : Char) : List Char → Option (List Char)
  | [] => none
  | c :: rest => if c = first then dropEnd? [last] rest else none

/-- The text without its last `\n`, if it ends with one. -/
def dropFinalNewline (text : List Char) : List Char :=
  (dropEnd? ['\n'] text).getD text

def join (separator : List Char) : List (List Char) → List Char
  | [] => []
  | [piece] => piece
  | piece :: more => piece ++ separator ++ join separator more

end Listings.Text

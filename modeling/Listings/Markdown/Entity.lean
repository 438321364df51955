/-
This file decodes references to characters and undoes escapes.
-/

import Listings.Markdown.Entity.Names
import Listings.Text.Number
import Listings.Text.Pieces

namespace Listings.Markdown

open Text

/-- The characters that a backslash takes their meaning from. -/
def isAsciiPunctuation (c : Char) : Bool :=
  ('!' ≤ c && c ≤ '/') || (':' ≤ c && c ≤ '@') || ('[' ≤ c && c ≤ '\x60') ||
    ('\x7b' ≤ c && c ≤ '~')

def isAsciiLetter (c : Char) : Bool := ('a' ≤ c && c ≤ 'z') || ('A' ≤ c && c ≤ 'Z')

def isAsciiAlphanumeric (c : Char) : Bool := isAsciiLetter c || isDigit c

/-- A blank within a line. -/
def isSpacing (c : Char) : Bool := c == ' ' || c == '\t' || c == '\x0b' || c == '\x0c'

def isAsciiBlank (c : Char) : Bool := isSpacing c || c == '\n' || c == '\r'

namespace Entity

/-- The name and the characters of an entry of the table. -/
def entry? (word : List Char) : Option (List Char × List Char) :=
  (cutAt? (· == ':') word).map fun sides =>
    (sides.1, (pieces (· == ',') sides.2).map fun digits => Char.ofNat (hexNumber digits))

/-- Every entry of the table. -/
def entries : List (List Char × List Char) := (words table.toList).filterMap entry?

def named? (name : List Char) : Option (List Char) := entries.lookup name

/-- The character with a code; codes that no character has give the replacement character. -/
def coded (code : Nat) : Char :=
  if code != 0 && (code < 0xD800 || (0xE000 ≤ code && code < 0x110000)) then Char.ofNat code
  else '\ufffd'

/-- What follows the semicolon that has to stand here. -/
def ended? {α : Type} (value : α) : List Char → Option (α × List Char)
  | ';' :: rest => some (value, rest)
  | _ => none

/-- Decodes at most so many digits. -/
def number? (limit : Nat) (isOne : Char → Bool) (value : List Char → Nat) (text : List Char) :
    Option (List Char × List Char) :=
  let digits := (text.take limit).takeWhile isOne
  if digits.isEmpty then none else ended? [coded (value digits)] (text.drop digits.length)

def isHexDigit (c : Char) : Bool := (hexValue? c).isSome

/-- The characters that a reference stands for, whose `&` was read, and what follows it. -/
def read? (text : List Char) : Option (List Char × List Char) :=
  match text with
  | '#' :: 'x' :: rest | '#' :: 'X' :: rest => number? 6 isHexDigit hexNumber rest
  | '#' :: rest => number? 7 isDigit decimalValue rest
  | _ => do
      let name := text.takeWhile isAsciiAlphanumeric
      let (_, rest) ← ended? () (text.drop name.length)
      let value ← named? name
      pure (value, rest)

end Entity

/-- Puts in the characters that are escaped or referred to; `fuel` bounds the steps. -/
def unescapeWith : Nat → List Char → List Char
  | 0, text => text
  | _, [] => []
  | fuel + 1, '\\' :: c :: rest =>
      if isAsciiPunctuation c then c :: unescapeWith fuel rest
      else '\\' :: unescapeWith fuel (c :: rest)
  | fuel + 1, '&' :: rest =>
      match Entity.read? rest with
      | some (value, after) => value ++ unescapeWith fuel after
      | none => '&' :: unescapeWith fuel rest
  | fuel + 1, c :: rest => c :: unescapeWith fuel rest

def unescape (text : List Char) : List Char := unescapeWith text.length text

end Listings.Markdown

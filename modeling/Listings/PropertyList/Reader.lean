/-
This file reads property lists that are written with tags.
-/

import Listings.PropertyList.Basic
import Listings.Text.Number
import Listings.Text.Reading

namespace Listings.PropertyList

open Text Reading

/-- What a document is made of, without comments and declarations. -/
inductive Piece where
  /-- A tag that stands for its end as well is empty. -/
  | opening (name : String) (isEmpty : Bool)
  | closing (name : String)
  | words (content : List Char)

/-- Goes past the next place of a marker and gives what stands before it. -/
def upTo (marker : List Char) : Reading (List Char) := do
  match cut? marker (← rest) with
  | some (before, after) => do
      set after
      pure before
  | none => fail

def isNameEnd (c : Char) : Bool := isBlank c || c == '/'

/-- The name of a tag, which attributes may follow. -/
def tagName (inside : List Char) : String :=
  String.ofList (inside.takeWhile fun c => !isNameEnd c)

/-- The character that a reference between `&` and `;` stands for. -/
def referenced? (name : List Char) : Option Char :=
  match name with
  | '#' :: 'x' :: digits => if digits.isEmpty then none else
      (digits.mapM hexValue?).map fun _ => Char.ofNat (hexNumber digits)
  | '#' :: digits =>
      if !digits.isEmpty && digits.all isDigit then some (Char.ofNat (decimalValue digits))
      else none
  | _ => [("lt", '<'), ("gt", '>'), ("amp", '&'), ("quot", '"'), ("apos", '\'')].lookup
      (String.ofList name)

/-- Text with the characters in place of references to them. -/
def dereference : Nat → List Char → Option (List Char)
  | _, [] => some []
  | 0, _ :: _ => none
  | fuel + 1, '&' :: after => do
      let (name, more) ← cutAt? (· == ';') after
      let c ← referenced? name
      pure (c :: (← dereference fuel more))
  | fuel + 1, c :: after => (dereference fuel after).map (c :: ·)

def wordsOf (text : List Char) : Reading Piece :=
  match dereference text.length text with
  | some content => pure (.words content)
  | none => fail

/-- The next piece of the document. -/
def piece : Nat → Reading Piece
  | 0 => fail
  | fuel + 1 => do
      if ← accept "<!--".toList then
        let _ ← upTo "-->".toList
        piece fuel
      else if ← accept "<?".toList then
        let _ ← upTo "?>".toList
        piece fuel
      else if ← accept "<!".toList then
        let _ ← upTo ['>']
        piece fuel
      else if ← accept "</".toList then
        pure (.closing (tagName (← upTo ['>'])))
      else if ← accept ['<'] then
        let inside ← upTo ['>']
        pure (.opening (tagName inside) (inside.getLast? == some '/'))
      else
        let text ← takeWhile (· != '<')
        if text.isEmpty then fail else wordsOf text

def nextPiece : Reading Piece := do
  piece ((← rest).length + 1)

/-- The next tag; only blanks may stand before it. -/
def nextTag : Nat → Reading Piece
  | 0 => fail
  | fuel + 1 => do
      match ← nextPiece with
      | .words content => if content.all isBlank then nextTag fuel else fail
      | tag => pure tag

/-- Goes past the tag that ends an element. -/
def close (fuel : Nat) (name : String) : Reading Unit := do
  match ← nextTag fuel with
  | .closing found => if found == name then pure () else fail
  | _ => fail

/-- The text in an element up to its end. -/
def content (fuel : Nat) (name : String) : Reading String := do
  match ← nextPiece with
  | .words found => do
      close fuel name
      pure (String.ofList found)
  | .closing found => if found == name then pure "" else fail
  | .opening .. => fail

/-- The text in an element whose first tag was read. -/
def textIn (fuel : Nat) (name : String) (isEmpty : Bool) : Reading String :=
  if isEmpty then pure "" else content fuel name

mutual

/-- The value of an element whose first tag was read. -/
def valueOf : Nat → String → Bool → Reading PropertyList
  | 0, _, _ => fail
  | fuel + 1, name, isEmpty => do
      match name with
      | "dict" => if isEmpty then pure (.record []) else do
          pure (.record (← entries fuel))
      | "array" => if isEmpty then pure (.list []) else do
          pure (.list (← items fuel))
      | "string" | "key" | "date" => do
          pure (.text (← textIn fuel name isEmpty))
      | "integer" | "real" | "true" | "false" => do
          let _ ← textIn fuel name isEmpty
          pure (.scalar name)
      | _ => fail

def items : Nat → Reading (List PropertyList)
  | 0 => fail
  | fuel + 1 => do
      match ← nextTag fuel with
      | .opening name isEmpty => do
          let first ← valueOf fuel name isEmpty
          pure (first :: (← items fuel))
      | .closing "array" => pure []
      | _ => fail

/-- Keys and values in turn. -/
def entries : Nat → Reading (List (String × PropertyList))
  | 0 => fail
  | fuel + 1 => do
      match ← nextTag fuel with
      | .closing "dict" => pure []
      | .opening name isEmpty => do
          match ← valueOf fuel name isEmpty with
          | .text key => do
              match ← nextTag fuel with
              | .opening name isEmpty => do
                  let value ← valueOf fuel name isEmpty
                  pure ((key, value) :: (← entries fuel))
              | _ => fail
          | _ => fail
      | _ => fail

end

/-- The first value of a document; what follows it is not looked at. -/
def root (fuel : Nat) : Reading PropertyList := do
  match ← nextTag fuel with
  | .opening "plist" false => do
      match ← nextTag fuel with
      | .opening name isEmpty => valueOf fuel name isEmpty
      | _ => fail
  | .opening name isEmpty => valueOf fuel name isEmpty
  | _ => fail

/-- Reads a document, which may begin with a byte order mark. -/
def read? (document : String) : Option PropertyList :=
  let text := match document.toList with
    | '\ufeff' :: rest => rest
    | rest => rest
  ((root (text.length + 1)).run text).map Prod.fst

end Listings.PropertyList

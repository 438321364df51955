/-
This file finds the ends of HTML tags and of other raw markup.
-/

import Listings.Markdown.Entity

namespace Listings.Markdown.Tag

open Text

def isNameChar (c : Char) : Bool := isAsciiAlphanumeric c || c == '-'

def isAttributeStart (c : Char) : Bool := isAsciiLetter c || c == '_' || c == ':'

def isAttributeChar (c : Char) : Bool :=
  isAsciiAlphanumeric c || c == '_' || c == '.' || c == ':' || c == '-'

/-- A value without quotes may hold this character. -/
def isBareValueChar (c : Char) : Bool :=
  !(isAsciiBlank c || c == '"' || c == '\'' || c == '=' || c == '<' || c == '>' || c == '\x60')

def dropBlanks (text : List Char) : List Char := text.dropWhile isAsciiBlank

/-- What follows the value of an attribute. -/
def afterValue? (text : List Char) : Option (List Char) :=
  match text with
  | [] => none
  | c :: rest =>
      if c == '"' || c == '\'' then (cutAt? (· == c) rest).map Prod.snd
      else if isBareValueChar c then some (rest.dropWhile isBareValueChar)
      else none

/-- What follows an attribute; blanks after it are left for the next one. -/
def afterAttribute? (text : List Char) : Option (List Char) :=
  match text with
  | [] => none
  | c :: rest =>
      if isAttributeStart c then
        let afterName := rest.dropWhile isAttributeChar
        match dropBlanks afterName with
        | '=' :: value => afterValue? (dropBlanks value)
        | _ => some afterName
      else none

/-- What follows attributes, each with blanks before it; `fuel` bounds their number. -/
def afterAttributes? : Nat → List Char → Option (List Char)
  | 0, _ => none
  | fuel + 1, text =>
      match dropBlanks text with
      | '/' :: rest => some ('/' :: rest)
      | '>' :: rest => some ('>' :: rest)
      | rest =>
          if rest.length == text.length then none
          else (afterAttribute? rest).bind (afterAttributes? fuel)

/-- What follows the `>` that has to stand here. -/
def afterClose? : List Char → Option (List Char)
  | '>' :: rest => some rest
  | _ => none

/-- What follows a tag whose `<` was read. -/
def after? (text : List Char) : Option (List Char) :=
  match text with
  | '/' :: c :: rest =>
      if isAsciiLetter c then afterClose? (dropBlanks (rest.dropWhile isNameChar)) else none
  | c :: rest =>
      if isAsciiLetter c then do
        let last ← afterAttributes? (rest.length + 1) (rest.dropWhile isNameChar)
        afterClose? ((dropStart? ['/'] last).getD last)
      else none
  | [] => none

/-- What follows the first place of a marker. -/
def pastMarker? (marker : String) (text : List Char) : Option (List Char) :=
  (cut? marker.toList text).map Prod.snd

/-- What follows a section of character data; only its first brackets can close it. -/
def afterData? (text : List Char) : Option (List Char) :=
  match text.dropWhile (· != ']') with
  | [] => none
  | rest => afterClose? (rest.dropWhile (· == ']'))

/-- What follows a comment, an instruction, a declaration or a tag whose `<` was read. -/
def afterMarkup? (text : List Char) : Option (List Char) :=
  match text with
  | '?' :: rest => pastMarker? "?>" rest
  | '!' :: '-' :: '-' :: rest => pastMarker? "-->" ('-' :: '-' :: rest)
  | '!' :: '-' :: _ => none
  | '!' :: '[' :: rest => (dropStart? "CDATA[".toList rest).bind afterData?
  | '!' :: c :: rest => if isAsciiLetter c then pastMarker? ">" rest else none
  | _ => after? text

end Listings.Markdown.Tag

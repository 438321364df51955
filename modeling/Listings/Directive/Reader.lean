/-
This file reads directives and reports the tokens that mean nothing.
-/

import Listings.Directive.Basic
import Listings.Notice
import Listings.Text.Number
import Listings.Text.Pieces

namespace Listings

open LineRange (between)
open Markup (Attribute)
open Text

/-- The two line indices of a part such as `3-8`. -/
def LineRange.read? (part : List Char) : Option LineRange :=
  match pieces (· == '-') part with
  | [low, high] =>
      match readIndex? low, readIndex? high with
      | some a, some b => some (between a b)
      | _, _ => none
  | _ => none

namespace LineSet

/-- What one part of a line list means. -/
def readPart (part : List Char) : Option LineRange ⊕ Notice :=
  if part.isEmpty then .inl none
  else if part.contains '-' then
    match LineRange.read? part with
    | some range => .inl (some range)
    | none => .inr (.malformedRange (String.ofList part))
  else
    match readIndex? part with
    | some line => .inl (some (between line line))
    | none => .inr (.malformedNumber (String.ofList part))

/-- The parts of a line list, which may stand in square brackets. -/
def listParts (value : List Char) : List (List Char) :=
  pieces (· == ',') ((unwrap? '[' ']' value).getD value)

def insertPart (set : LineSet) (part : List Char) : Reported LineSet :=
  match readPart part with
  | .inl none => ⟨set, []⟩
  | .inl (some range) => ⟨set.insertRange range.first range.last, []⟩
  | .inr notice => ⟨set, [notice]⟩

/-- Reads a line list; parts that name no lines are reported and left out. -/
def read (value : List Char) : Reported LineSet :=
  (listParts value).foldlM insertPart empty

end LineSet

namespace Directive

def isAsciiAlphanumeric (c : Char) : Bool :=
  isDigit c || ('a' ≤ c && c ≤ 'z') || ('A' ≤ c && c ≤ 'Z')

/-- A directive may set attributes with these names. -/
def isDataName (name : List Char) : Bool :=
  match dropStart? "data-".toList name with
  | some rest => rest.all isAsciiAlphanumeric
  | none => false

/-- Takes off one pair of equal quotes. -/
def unquote (value : List Char) : List Char :=
  match unwrap? '"' '"' value with
  | some inner => inner
  | none => (unwrap? '\'' '\'' value).getD value

/-- One word of a directive. -/
inductive Token where
  | preserveScopes
  | highlightLines (value : List Char)
  | showLines (value : List Char)
  | hideLines (value : List Char)
  | setAttribute (name : List Char) (value : Attribute)
  | unhandled (notice : Notice)

namespace Token

def ofWord (word : List Char) : Token :=
  if word = "preserve-scopes".toList then preserveScopes
  else
    match cutAt? (· == '=') word with
    | none =>
        if isDataName word then setAttribute word (.flag true)
        else unhandled (.unhandledToken (String.ofList word))
    | some (key, value) =>
        if key = "highlight".toList then highlightLines value
        else if key = "show".toList then showLines value
        else if key = "hide".toList then hideLines value
        else if isDataName key then setAttribute key (.text (String.ofList (unquote value)))
        else unhandled (.unhandledSetting (String.ofList key) (String.ofList value))

end Token

/-- A later token replaces what an earlier one of its kind has set. -/
def apply (directive : Directive) : Token → Reported Directive
  | .preserveScopes => pure { directive with preservesScopes := true }
  | .highlightLines value => do
      let lines ← LineSet.read value
      pure { directive with highlighted := lines }
  | .showLines value => do
      let lines ← LineSet.read value
      pure { directive with shown := some lines }
  | .hideLines value => do
      let lines ← LineSet.read value
      pure { directive with hidden := lines }
  | .setAttribute name value =>
      pure { directive with
        attributes := directive.attributes.insert (String.ofList name) value }
  | .unhandled notice => ⟨directive, [notice]⟩

/-- Every text is a directive; what it cannot mean is reported. -/
def read (text : String) : Reported Directive :=
  ((words text.toList).map Token.ofWord).foldlM apply {}

end Directive

end Listings

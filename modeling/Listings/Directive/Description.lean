/-
This file writes a directive out in full, for diagnosis.
-/

import Listings.Directive.Basic
import Listings.Text.Escaped

namespace Listings

open Markup (Attribute Attributes)

/-- A brace that opens or closes the fields of a record. -/
private def braced (inner : String) : String :=
  "\x7b" ++ inner ++ "\x7d"

private def record (name : String) (fields : List (String × String)) : String :=
  name ++ " " ++ braced (" " ++
    ", ".intercalate (fields.map fun field => field.1 ++ ": " ++ field.2) ++ " ")

private def bracketed (items : List String) : String :=
  "[" ++ ", ".intercalate items ++ "]"

private def optional (value : Option String) : String :=
  match value with
  | some text => "Some(" ++ text ++ ")"
  | none => "None"

def LineRange.description (range : LineRange) : String :=
  toString range.first ++ "..=" ++ toString range.last

def LineSet.description (set : LineSet) : String :=
  record "LineSet" [("ranges", bracketed (set.ranges.map LineRange.description))]

def Markup.Attribute.description : Attribute → String
  | .text value => "Text(" ++ Text.quoted value ++ ")"
  | .flag isSet => "Flag(" ++ (if isSet then "true" else "false") ++ ")"
  | .list items => "List(" ++ bracketed (items.map Text.quoted) ++ ")"

def Markup.Attributes.description (attributes : Attributes) : String :=
  braced (", ".intercalate (attributes.entries.map fun entry =>
    Text.quoted entry.1 ++ ": " ++ entry.2.description))

/-- The directive with the number of edits that follow it. -/
def Directive.description (directive : Directive) (edits : Nat) : String :=
  record "DirectiveConfig" [
    ("hidden_lines", directive.hidden.description),
    ("shown_lines", optional (directive.shown.map LineSet.description)),
    ("highlighted_lines", directive.highlighted.description),
    ("preserve_scopes", if directive.preservesScopes then "true" else "false"),
    ("inline", optional (directive.inline.map toString)),
    ("custom_attributes", directive.attributes.description),
    ("postprocess", toString edits)]

end Listings

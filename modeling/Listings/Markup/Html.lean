/-
This file writes markup as HTML.
-/

import Listings.Markup.Node

namespace Listings.Markup

/-- The five characters that are written as entities. -/
def escapeChar : Char → List Char
  | '&' => "&amp;".toList
  | '<' => "&lt;".toList
  | '>' => "&gt;".toList
  | '"' => "&quot;".toList
  | '\'' => "&#x27;".toList
  | c => [c]

def escape (text : List Char) : List Char :=
  text.flatMap escapeChar

namespace Attribute

/-- The text between the quotes, `none` for a name that stands alone. -/
def written? : Attribute → Option String
  | text value => some value
  | flag _ => none
  | list items => some (" ".intercalate items)

/-- A flag that is not set and an empty list are not written. -/
def isWritten : Attribute → Bool
  | text _ => true
  | flag isSet => isSet
  | list items => !items.isEmpty

def html (name : String) (value : Attribute) : List Char :=
  if value.isWritten then
    ' ' :: name.toList ++
      match value.written? with
      | some content => '=' :: '"' :: escape content.toList ++ ['"']
      | none => []
  else []

end Attribute

def Attributes.html (attributes : Attributes) : List Char :=
  attributes.entries.flatMap fun entry => Attribute.html entry.1 entry.2

def openTag (tag : String) (attributes : Attributes) : List Char :=
  '<' :: tag.toList ++ attributes.html ++ ['>']

def closeTag (tag : String) : List Char :=
  '<' :: '/' :: tag.toList ++ ['>']

mutual

def Node.html : Node → List Char
  | .text content => escape content.toList
  | .element tag attributes children =>
      openTag tag attributes ++ Forest.html children ++ closeTag tag

def Forest.html : List Node → List Char
  | [] => []
  | node :: rest => node.html ++ Forest.html rest

end

def Element.html (element : Element) : String := String.ofList element.toNode.html

/-- The HTML of several elements, one after the other. -/
def render (roots : List Element) : String :=
  String.ofList (Forest.html (roots.map Element.toNode))

end Listings.Markup

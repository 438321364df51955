/-
This file defines the markup tree, the searches in it and the edits of it.
-/

import Listings.Markup.Attribute

namespace Listings.Markup

/-- A text, or an element with its children. -/
inductive Node where
  | text (content : String)
  | element (tag : String) (attributes : Attributes) (children : List Node)
deriving Inhabited

/-- A node that is an element. -/
structure Element where
  tag : String
  attributes : Attributes := ∅
  children : List Node := []
deriving Inhabited

mutual

/-- All texts of the tree, in document order. -/
def Node.textContent : Node → List Char
  | .text content => content.toList
  | .element _ _ children => Forest.textContent children

def Forest.textContent : List Node → List Char
  | [] => []
  | node :: rest => node.textContent ++ Forest.textContent rest

end

mutual

/-- The first element with the tag, in document order. -/
def Node.find? (wanted : String) : Node → Option Element
  | .text _ => none
  | .element tag attributes children =>
      if tag = wanted then some ⟨tag, attributes, children⟩
      else Forest.find? wanted children

def Forest.find? (wanted : String) : List Node → Option Element
  | [] => none
  | node :: rest =>
      match node.find? wanted with
      | some found => some found
      | none => Forest.find? wanted rest

end

mutual

/-- The tree without the attribute, at any depth. -/
def Node.eraseAttribute (name : String) : Node → Node
  | .text content => .text content
  | .element tag attributes children =>
      .element tag (attributes.erase name) (Forest.eraseAttribute name children)

def Forest.eraseAttribute (name : String) : List Node → List Node
  | [] => []
  | node :: rest => node.eraseAttribute name :: Forest.eraseAttribute name rest

end

def Node.element? : Node → Option Element
  | .text _ => none
  | .element tag attributes children => some ⟨tag, attributes, children⟩

namespace Element

def toNode (element : Element) : Node :=
  .element element.tag element.attributes element.children

instance : Coe Element Node := ⟨toNode⟩

def withAttribute (name : String) (value : Attribute) (element : Element) : Element :=
  { element with attributes := element.attributes.insert name value }

def withText (name value : String) (element : Element) : Element :=
  element.withAttribute name (.text value)

def withClasses (classes : List String) (element : Element) : Element :=
  element.withAttribute "class" (.list classes)

def withChild (child : Node) (element : Element) : Element :=
  { element with children := element.children ++ [child] }

def withChildren (children : List Node) (element : Element) : Element :=
  { element with children := element.children ++ children }

def attribute? (element : Element) (name : String) : Option Attribute :=
  element.attributes.get? name

def eraseAttribute (name : String) (element : Element) : Element :=
  { element with attributes := element.attributes.erase name }

/-- Removes the attribute here and from all descendants. -/
def eraseEverywhere (name : String) (element : Element) : Element :=
  ⟨element.tag, element.attributes.erase name, Forest.eraseAttribute name element.children⟩

/-- Only a list of classes is searched. -/
def hasClass (element : Element) (name : String) : Bool :=
  match element.attribute? "class" with
  | some (.list classes) => classes.contains name
  | _ => false

def childElements (element : Element) : List Element :=
  element.children.filterMap Node.element?

/-- The first element with the tag in document order, itself included. -/
def find? (element : Element) (tag : String) : Option Element :=
  element.toNode.find? tag

def textContent (element : Element) : String :=
  String.ofList element.toNode.textContent

/-- The attribute that names the scopes of a span. -/
def scopeAttribute : String := "data-scope"

def stripScopes (element : Element) : Element :=
  element.eraseEverywhere scopeAttribute

end Element

end Listings.Markup

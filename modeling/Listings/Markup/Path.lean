/-
This file reaches elements of a tree by the indices of children on the way to them.
-/

import Listings.Markup.Node

namespace Listings.Markup

def Node.at? : List Nat → Node → Option Element
  | [], node => node.element?
  | _ :: _, .text _ => none
  | index :: path, .element _ _ children =>
      match children[index]? with
      | some child => Node.at? path child
      | none => none

/-- There is nothing to change where the path leaves the tree or meets a text. -/
def Node.modifyAt? (change : Element → Element) : List Nat → Node → Option Node
  | [], node => node.element?.map fun element => (change element).toNode
  | _ :: _, .text _ => none
  | index :: path, .element tag attributes children =>
      match children[index]? with
      | some child =>
          (Node.modifyAt? change path child).map fun changed =>
            .element tag attributes (children.set index changed)
      | none => none

namespace Element

def at? (element : Element) (path : List Nat) : Option Element :=
  element.toNode.at? path

def modifyAt? (change : Element → Element) (path : List Nat) (element : Element) :
    Option Element :=
  (Node.modifyAt? change path element.toNode).bind Node.element?

end Element

end Listings.Markup

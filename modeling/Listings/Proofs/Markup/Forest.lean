/-
This file holds the inductions over forests and trees and what the walks over them make of a longer
forest.
-/

import Listings.Markup.Html
import Listings.Text.Pieces

namespace Listings.Markup

/-- A forest is empty, or a text or an element comes first. -/
theorem Forest.induction {motive : List Node → Prop} (nil : motive [])
    (text : ∀ content rest, motive rest → motive (.text content :: rest))
    (element : ∀ tag attributes children rest, motive children → motive rest →
      motive (.element tag attributes children :: rest)) :
    ∀ forest, motive forest
  | [] => nil
  | .text content :: rest => text content rest (Forest.induction nil text element rest)
  | .element tag attributes children :: rest =>
      element tag attributes children rest (Forest.induction nil text element children)
        (Forest.induction nil text element rest)

/-- What holds of every text, and of an element where it holds of its children, holds of all
nodes. -/
theorem Node.induction {motive : Node → Prop} (text : ∀ content, motive (.text content))
    (element : ∀ tag attributes children, (∀ child ∈ children, motive child) →
      motive (.element tag attributes children)) (node : Node) : motive node := by
  have all (forest : List Node) : ∀ node ∈ forest, motive node := by
    induction forest using Forest.induction with
    | nil => nofun
    | text content rest inductionHypothesis =>
        exact List.forall_mem_cons.2 ⟨text content, inductionHypothesis⟩
    | element tag attributes children rest childrenHypothesis restHypothesis =>
        exact List.forall_mem_cons.2
          ⟨element tag attributes children childrenHypothesis, restHypothesis⟩
  exact all [node] node List.mem_cons_self

/-- A name ends at any of these characters and at blanks. -/
def isNameChar (c : Char) : Bool :=
  !(Text.isBlank c || ['<', '>', '/', '=', '"', '\'', '&'].contains c)

def isName (name : String) : Bool :=
  !name.toList.isEmpty && name.toList.all isNameChar

theorem all_of_isName {name : String} (named : isName name = true) :
    ∀ c ∈ name.toList, isNameChar c = true := by
  rw [isName, Bool.and_eq_true] at named
  exact List.all_eq_true.1 named.2

def Attributes.wellNamed (attributes : Attributes) : Bool :=
  attributes.entries.all fun entry => isName entry.1

mutual

/-- All tags and all names of attributes can be told from what stands around them. -/
def Node.wellNamed : Node → Bool
  | .text _ => true
  | .element tag attributes children =>
      isName tag && attributes.wellNamed && Forest.wellNamed children

def Forest.wellNamed : List Node → Bool
  | [] => true
  | node :: rest => node.wellNamed && Forest.wellNamed rest

end

def Element.wellNamed (element : Element) : Bool := element.toNode.wellNamed

namespace Forest

@[simp] theorem html_nil : html [] = [] := rfl

@[simp] theorem html_cons (node : Node) (rest : List Node) :
    html (node :: rest) = node.html ++ html rest := by
  rw [html]

@[simp] theorem textContent_nil : textContent [] = [] := rfl

@[simp] theorem textContent_cons (node : Node) (rest : List Node) :
    textContent (node :: rest) = node.textContent ++ textContent rest := by
  rw [textContent]

@[simp] theorem wellNamed_nil : wellNamed [] = true := rfl

@[simp] theorem wellNamed_cons (node : Node) (rest : List Node) :
    wellNamed (node :: rest) = (node.wellNamed && wellNamed rest) := by
  rw [wellNamed]

theorem textContent_append (first second : List Node) :
    textContent (first ++ second) = textContent first ++ textContent second := by
  induction first with
  | nil => rfl
  | cons node rest inductionHypothesis =>
      rw [List.cons_append, textContent_cons, textContent_cons, inductionHypothesis,
        List.append_assoc]

theorem wellNamed_eq_all (forest : List Node) :
    wellNamed forest = forest.all Node.wellNamed := by
  induction forest with
  | nil => rfl
  | cons node rest inductionHypothesis =>
      rw [wellNamed_cons, List.all_cons, inductionHypothesis]

end Forest

namespace Node

@[simp] theorem html_text (content : String) :
    (Node.text content).html = escape content.toList := by
  rw [html]

@[simp] theorem html_element (tag : String) (attributes : Attributes) (children : List Node) :
    (Node.element tag attributes children).html =
      openTag tag attributes ++ Forest.html children ++ closeTag tag := by
  rw [html]

@[simp] theorem textContent_text (content : String) :
    (Node.text content).textContent = content.toList := by
  rw [textContent]

@[simp] theorem textContent_element (tag : String) (attributes : Attributes)
    (children : List Node) :
    (Node.element tag attributes children).textContent = Forest.textContent children := by
  rw [textContent]

@[simp] theorem wellNamed_text (content : String) : (Node.text content).wellNamed = true := by
  rw [wellNamed]

@[simp] theorem wellNamed_element (tag : String) (attributes : Attributes)
    (children : List Node) :
    (Node.element tag attributes children).wellNamed =
      (isName tag && attributes.wellNamed && Forest.wellNamed children) := by
  rw [wellNamed]

end Node

end Listings.Markup

/-
This file says what holds of all elements of a tree, and what is at a path or found by its tag after
an attribute was erased everywhere.
-/

import Listings.Markup.Path
import Listings.Proofs.Markup.Building
import Listings.Proofs.Markup.Lookup

namespace Listings.Markup

namespace Node

/-- The property holds of every element of the tree, at any depth. -/
def Everywhere (holds : Element → Prop) (node : Node) : Prop :=
  ∀ (path : List Nat) (element : Element), node.at? path = some element → holds element

variable {holds : Element → Prop}

@[simp] theorem at?_text (path : List Nat) (content : String) :
    (Node.text content).at? path = none := by
  cases path <;> rfl

theorem at?_cons (tag : String) (attributes : Attributes) (children : List Node) (index : Nat)
    (path : List Nat) :
    (Node.element tag attributes children).at? (index :: path) =
      children[index]?.bind (Node.at? path) := by
  rw [at?]
  cases children[index]? <;> rfl

theorem everywhere_text (content : String) : (Node.text content).Everywhere holds := by
  intro path element found
  rw [at?_text] at found
  contradiction

theorem everywhere_element {tag : String} {attributes : Attributes} {children : List Node} :
    (Node.element tag attributes children).Everywhere holds ↔
      holds ⟨tag, attributes, children⟩ ∧ ∀ child ∈ children, child.Everywhere holds := by
  constructor
  · intro everywhere
    refine ⟨everywhere [] _ rfl, ?_⟩
    intro child member path element found
    obtain ⟨index, isChild⟩ := List.mem_iff_getElem?.1 member
    refine everywhere (index :: path) element ?_
    rw [at?_cons, isChild]
    exact found
  · rintro ⟨here, below⟩ path element found
    cases path with
    | nil =>
        cases found
        exact here
    | cons index path =>
        rw [at?_cons, Option.bind_eq_some_iff] at found
        obtain ⟨child, isChild, foundThere⟩ := found
        exact below child (List.mem_of_getElem? isChild) path element foundThere

end Node

namespace Attributes

theorem get?_erase (attributes : Attributes) (name other : String) :
    (attributes.erase name).get? other =
      if other = name then none else attributes.get? other :=
  lookup_filter_ne name other attributes.entries

end Attributes

theorem Forest.eraseAttribute_eq_map (name : String) (forest : List Node) :
    Forest.eraseAttribute name forest = forest.map (Node.eraseAttribute name) := by
  induction forest with
  | nil => rfl
  | cons node rest inductionHypothesis =>
      rw [Forest.eraseAttribute, List.map_cons, inductionHypothesis]

namespace Node

/-- What is at a path of a tree, be it a text or an element. -/
def nodeAt? : List Nat → Node → Option Node
  | [], node => some node
  | _ :: _, .text _ => none
  | index :: path, .element _ _ children => children[index]?.bind (nodeAt? path)

theorem at?_eq_bind (path : List Nat) (node : Node) :
    node.at? path = (node.nodeAt? path).bind element? := by
  induction path generalizing node with
  | nil => rfl
  | cons index path inductionHypothesis =>
      cases node with
      | text content => rfl
      | element tag attributes children =>
          rw [at?_cons, nodeAt?, Option.bind_assoc]
          exact congrArg (children[index]?.bind ·) (funext inductionHypothesis)

/-- The paths of a tree stay; what is there loses the attribute. -/
theorem nodeAt?_eraseAttribute (name : String) (path : List Nat) (node : Node) :
    (node.eraseAttribute name).nodeAt? path = (node.nodeAt? path).map (eraseAttribute name) := by
  induction path generalizing node with
  | nil => rfl
  | cons index path inductionHypothesis =>
      cases node with
      | text content => rfl
      | element tag attributes children =>
          rw [eraseAttribute, nodeAt?, nodeAt?, Forest.eraseAttribute_eq_map, List.getElem?_map,
            Option.bind_map, Option.map_bind]
          exact congrArg (children[index]?.bind ·) (funext inductionHypothesis)

theorem element?_eraseAttribute (name : String) (node : Node) :
    (node.eraseAttribute name).element? = node.element?.map (Element.eraseEverywhere name) := by
  cases node <;> rfl

theorem at?_eraseAttribute (name : String) (path : List Nat) (node : Node) :
    (node.eraseAttribute name).at? path = (node.at? path).map (Element.eraseEverywhere name) := by
  rw [at?_eq_bind, at?_eq_bind, nodeAt?_eraseAttribute, Option.bind_map, Option.map_bind]
  exact congrArg ((node.nodeAt? path).bind ·) (funext (element?_eraseAttribute name))

end Node

@[simp] theorem Forest.find?_text (tag content : String) (rest : List Node) :
    Forest.find? tag (.text content :: rest) = Forest.find? tag rest := by
  rw [Forest.find?, Node.find?]

@[simp] theorem Forest.find?_element (wanted tag : String) (attributes : Attributes)
    (children rest : List Node) :
    Forest.find? wanted (.element tag attributes children :: rest) =
      (if tag = wanted then some ⟨tag, attributes, children⟩
        else Forest.find? wanted children).or (Forest.find? wanted rest) := by
  rw [Forest.find?, Node.find?]
  split
  · rename_i found here
    rw [here, Option.some_or]
  · rename_i nowhere
    rw [nowhere, Option.none_or]

/-- The first element with a tag stays the first; it loses the attribute. -/
theorem Forest.find?_eraseAttribute (name tag : String) (forest : List Node) :
    Forest.find? tag (Forest.eraseAttribute name forest) =
      (Forest.find? tag forest).map (Element.eraseEverywhere name) := by
  induction forest using Forest.induction with
  | nil => rfl
  | text content rest inductionHypothesis =>
      rw [eraseAttribute_text, find?_text, find?_text, inductionHypothesis]
  | element own attributes children rest childrenHypothesis restHypothesis =>
      rw [eraseAttribute_element, find?_element, find?_element, childrenHypothesis, restHypothesis,
        Option.map_or]
      split <;> rfl

namespace Element

/-- The two differ at most in one attribute, of their own and of what is below them. -/
structure AgreeBut (name : String) (first second : Element) : Prop where
  tag : second.tag = first.tag
  others : ∀ other, other ≠ name → second.attribute? other = first.attribute? other
  children : second.children.length = first.children.length
  text : ∀ (index : Nat) (content : String),
    second.children[index]? = some (.text content) ↔ first.children[index]? = some (.text content)

theorem attribute?_withAttribute (name other : String) (value : Attribute) (element : Element) :
    (element.withAttribute name value).attribute? other =
      if other = name then some value else element.attribute? other :=
  Attributes.get?_insert element.attributes name other value

theorem attribute?_eraseEverywhere (name other : String) (element : Element) :
    (element.eraseEverywhere name).attribute? other =
      if other = name then none else element.attribute? other :=
  Attributes.get?_erase element.attributes name other

theorem agreeBut_eraseEverywhere (name : String) (element : Element) :
    AgreeBut name element (element.eraseEverywhere name) := by
  have below : (element.eraseEverywhere name).children =
      element.children.map (Node.eraseAttribute name) := Forest.eraseAttribute_eq_map ..
  refine ⟨rfl, ?_, ?_, ?_⟩
  · intro other different
    rw [attribute?_eraseEverywhere, if_neg different]
  · rw [below, List.length_map]
  · intro index content
    rw [below, List.getElem?_map, Option.map_eq_some_iff]
    constructor
    · rintro ⟨node, isChild, erased⟩
      cases node with
      | text old =>
          cases erased
          exact isChild
      | element tag attributes children => contradiction
    · intro isChild
      exact ⟨.text content, isChild, rfl⟩

theorem at?_eraseEverywhere (name : String) (path : List Nat) (element : Element) :
    (element.eraseEverywhere name).at? path = (element.at? path).map (eraseEverywhere name) :=
  Node.at?_eraseAttribute name path element.toNode

theorem find?_eraseEverywhere (name tag : String) (element : Element) :
    (element.eraseEverywhere name).find? tag =
      (element.find? tag).map (eraseEverywhere name) := by
  have single (element : Element) : element.find? tag = Forest.find? tag [element.toNode] := by
    rw [find?, toNode, Forest.find?_element, Forest.find?, Option.or_none, Node.find?]
  have erased : [(element.eraseEverywhere name).toNode] =
      Forest.eraseAttribute name [element.toNode] :=
    (Forest.eraseAttribute_element name element.tag element.attributes element.children []).symm
  rw [single, single, erased, Forest.find?_eraseAttribute]

end Element

end Listings.Markup

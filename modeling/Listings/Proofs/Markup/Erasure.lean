/-
This file shows that erasing an attribute everywhere takes it from every element of a tree and
changes nothing else.
-/

import Listings.Proofs.Markup.Everywhere

namespace Listings.Markup

theorem Attributes.erase_comm (attributes : Attributes) (first second : String) :
    (attributes.erase first).erase second = (attributes.erase second).erase first := by
  refine Attributes.ext_get? fun name => ?_
  simp only [get?_erase]
  split <;> split <;> rfl

/-- Erased attributes are those that are found without the one, and as before otherwise. -/
theorem Attributes.eq_erase_of_get? {before after : Attributes} {name : String}
    (gone : after.get? name = none)
    (kept : ∀ other, other ≠ name → after.get? other = before.get? other) :
    after = before.erase name := by
  refine Attributes.ext_get? fun other => ?_
  rw [get?_erase]
  split
  · rename_i same
    rw [same, gone]
  · rename_i different
    exact kept other different

/-- Both are the same text, or elements with the same tag that differ at most in the attribute,
which the second does not have. What is below them does not matter. -/
inductive Node.LosesOnly (name : String) : Node → Node → Prop
  | text (content : String) : LosesOnly name (.text content) (.text content)
  | element (tag : String) {before after : Attributes} (children others : List Node)
      (gone : after.get? name = none)
      (kept : ∀ other, other ≠ name → after.get? other = before.get? other) :
      LosesOnly name (.element tag before children) (.element tag after others)

namespace Node

theorem losesOnly_eraseAttribute (name : String) (node : Node) :
    LosesOnly name node (node.eraseAttribute name) := by
  cases node with
  | text content => exact .text content
  | element tag attributes children =>
      refine .element tag _ _ ?_ fun other different => ?_
      · rw [Attributes.get?_erase, if_pos rfl]
      · rw [Attributes.get?_erase, if_neg different]

end Node

theorem Forest.eraseAttribute_comm (first second : String) (forest : List Node) :
    eraseAttribute second (eraseAttribute first forest) =
      eraseAttribute first (eraseAttribute second forest) := by
  induction forest using Forest.induction with
  | nil => rfl
  | text content rest inductionHypothesis =>
      simp only [eraseAttribute_text, inductionHypothesis]
  | element tag attributes children rest childrenHypothesis restHypothesis =>
      simp only [eraseAttribute_element, childrenHypothesis, restHypothesis,
        attributes.erase_comm first second]

/-- There is only one forest that has lost the attribute on all paths and nothing else. -/
theorem Forest.eq_eraseAttribute_of_losesOnly {name : String} {forest others : List Node}
    (each : ∀ (index : Nat) (path : List Nat), Option.Rel (Node.LosesOnly name)
      (forest[index]?.bind (Node.nodeAt? path)) (others[index]?.bind (Node.nodeAt? path))) :
    others = eraseAttribute name forest := by
  -- Wherever the first has a node, so has the second, and neither has more of them.
  induction forest using Forest.induction generalizing others with
  | nil =>
      cases others with
      | nil => rfl
      | cons other more => nomatch each 0 []
  | text content rest inductionHypothesis =>
      cases others with
      | nil => nomatch each 0 []
      | cons other more =>
          have further := inductionHypothesis fun index path => each (index + 1) path
          cases each 0 [] with
          | some loses =>
              cases loses with
              | text => rw [eraseAttribute_text, further]
  | element tag attributes children rest childrenHypothesis restHypothesis =>
      cases others with
      | nil => nomatch each 0 []
      | cons other more =>
          have further := restHypothesis fun index path => each (index + 1) path
          cases each 0 [] with
          | some loses =>
              cases loses with
              | element _ _ below gone kept =>
                  have same := childrenHypothesis fun index path => each 0 (index :: path)
                  rw [eraseAttribute_element, further, same,
                    Attributes.eq_erase_of_get? gone kept]

namespace Element

theorem everywhere_eraseEverywhere (name : String) (element : Element) :
    (element.eraseEverywhere name).toNode.Everywhere fun found => found.attribute? name = none := by
  intro path found there
  change (element.eraseEverywhere name).at? path = some found at there
  rw [at?_eraseEverywhere, Option.map_eq_some_iff] at there
  obtain ⟨before, _, rfl⟩ := there
  rw [attribute?_eraseEverywhere, if_pos rfl]

theorem losesOnly_eraseEverywhere (name : String) (element : Element) (path : List Nat) :
    Option.Rel (Node.LosesOnly name) (element.toNode.nodeAt? path)
      ((element.eraseEverywhere name).toNode.nodeAt? path) := by
  change Option.Rel _ _ ((element.toNode.eraseAttribute name).nodeAt? path)
  rw [Node.nodeAt?_eraseAttribute]
  cases element.toNode.nodeAt? path with
  | none => exact .none
  | some node => exact .some (node.losesOnly_eraseAttribute name)

theorem eq_eraseEverywhere_iff {name : String} {element other : Element} :
    other = element.eraseEverywhere name ↔ ∀ path, Option.Rel (Node.LosesOnly name)
      (element.toNode.nodeAt? path) (other.toNode.nodeAt? path) := by
  constructor
  · rintro rfl
    exact losesOnly_eraseEverywhere name element
  · intro each
    have single : [other.toNode] = Forest.eraseAttribute name [element.toNode] := by
      refine Forest.eq_eraseAttribute_of_losesOnly fun index path => ?_
      cases index with
      | zero => exact each path
      | succ index => exact .none
    have same : other.toNode = (element.eraseEverywhere name).toNode := (List.cons.inj single).1
    exact Option.some.inj (congrArg Node.element? same)

/-- A tree without the attribute stays as it is. -/
theorem eraseEverywhere_eq_self {name : String} {element : Element}
    (absent : element.toNode.Everywhere fun found => found.attribute? name = none) :
    element.eraseEverywhere name = element := by
  symm
  rw [eq_eraseEverywhere_iff]
  intro path
  cases there : element.toNode.nodeAt? path with
  | none => exact .none
  | some node =>
      cases node with
      | text content => exact .some (.text content)
      | element tag attributes children =>
          have gone := absent path ⟨tag, attributes, children⟩ (by
            rw [Node.at?_eq_bind, there]
            rfl)
          exact .some (.element tag children children gone fun _ _ => rfl)

theorem childElements_eraseEverywhere (name : String) (element : Element) :
    (element.eraseEverywhere name).childElements =
      element.childElements.map (eraseEverywhere name) := by
  rw [childElements, childElements, eraseEverywhere, Forest.eraseAttribute_eq_map,
    List.filterMap_map, List.map_filterMap]
  exact congrArg (element.children.filterMap ·) (funext (Node.element?_eraseAttribute name))

theorem eraseEverywhere_comm (first second : String) (element : Element) :
    (element.eraseEverywhere first).eraseEverywhere second =
      (element.eraseEverywhere second).eraseEverywhere first := by
  simp only [eraseEverywhere, element.attributes.erase_comm first second,
    Forest.eraseAttribute_comm first second]

/-- Erasing an attribute everywhere leaves a tree with the same nodes on the same paths, of which
none has the attribute. No other tree is like that, so nothing is found, read or listed in another
way than before. Once erased, an attribute is gone, and it does not matter which goes first. -/
theorem eraseEverywhere_loses_only_attribute (name : String) (element : Element) :
    let erased := element.eraseEverywhere name
    (erased.toNode.Everywhere fun found => found.attribute? name = none) ∧
    (∀ other : Element, other = erased ↔ ∀ path, Option.Rel (Node.LosesOnly name)
      (element.toNode.nodeAt? path) (other.toNode.nodeAt? path)) ∧
    erased.textContent = element.textContent ∧
    erased.childElements.map Element.tag = element.childElements.map Element.tag ∧
    (∀ tag, erased.find? tag = (element.find? tag).map (eraseEverywhere name)) ∧
    erased.eraseEverywhere name = erased ∧
    ∀ other, erased.eraseEverywhere other =
      (element.eraseEverywhere other).eraseEverywhere name := by
  intro erased
  have absent := everywhere_eraseEverywhere name element
  refine ⟨absent, fun other => eq_eraseEverywhere_iff, textContent_eraseEverywhere name element, ?_,
    fun tag => find?_eraseEverywhere name tag element, eraseEverywhere_eq_self absent,
    fun other => eraseEverywhere_comm name other element⟩
  rw [childElements_eraseEverywhere, List.map_map]
  rfl

end Element

end Listings.Markup

/-
This file shows what building an element adds to its text and that good names stay good.
-/

import Listings.Proofs.Markup.Forest

namespace Listings.Markup

namespace Attributes

theorem mem_place {added other : Entry} {entries : List Entry}
    (member : other ∈ place added entries) : other = added ∨ other ∈ entries := by
  induction entries with
  | nil => exact Or.inl (List.mem_singleton.1 member)
  | cons head rest inductionHypothesis =>
      rw [place] at member
      split at member
      · exact List.mem_cons.1 member
      · split at member
        · rcases List.mem_cons.1 member with rfl | inRest
          · exact Or.inr (by simp)
          · exact (inductionHypothesis inRest).imp_right (List.mem_cons_of_mem _)
        · exact (List.mem_cons.1 member).imp_right (List.mem_cons_of_mem _)

theorem mem_insert {name : String} {value : Attribute} {attributes : Attributes} {entry : Entry}
    (member : entry ∈ (attributes.insert name value).entries) :
    entry = (name, value) ∨ entry ∈ attributes.entries :=
  mem_place member

theorem wellNamed_iff {attributes : Attributes} :
    attributes.wellNamed = true ↔ ∀ entry ∈ attributes.entries, isName entry.1 = true :=
  List.all_eq_true

theorem wellNamed_insert {name : String} {attributes : Attributes} (nameNamed : isName name = true)
    (named : attributes.wellNamed = true) (value : Attribute) :
    (attributes.insert name value).wellNamed = true := by
  rw [wellNamed_iff] at *
  intro entry member
  rcases mem_insert member with rfl | old
  · exact nameNamed
  · exact named entry old

theorem wellNamed_union {attributes later : Attributes} (named : attributes.wellNamed = true)
    (laterNamed : later.wellNamed = true) : (attributes.union later).wellNamed = true := by
  rw [wellNamed_iff] at laterNamed
  rw [union]
  generalize later.entries = entries at laterNamed
  induction entries generalizing attributes with
  | nil => exact named
  | cons entry rest inductionHypothesis =>
      obtain ⟨entryNamed, restNamed⟩ := List.forall_mem_cons.1 laterNamed
      exact inductionHypothesis (wellNamed_insert entryNamed named entry.2) restNamed

end Attributes

namespace Element

theorem wellNamed_iff {element : Element} :
    element.wellNamed = true ↔ isName element.tag = true ∧ element.attributes.wellNamed = true ∧
      Forest.wellNamed element.children = true := by
  rw [wellNamed, toNode, Node.wellNamed_element, Bool.and_eq_true, Bool.and_eq_true, and_assoc]

theorem wellNamed_mk {tag : String} (tagNamed : isName tag = true) :
    (Element.mk tag ∅ []).wellNamed = true :=
  wellNamed_iff.2 ⟨tagNamed, rfl, rfl⟩

theorem wellNamed_withAttribute {name : String} {element : Element} (nameNamed : isName name = true)
    (named : element.wellNamed = true) (value : Attribute) :
    (element.withAttribute name value).wellNamed = true := by
  rw [wellNamed_iff] at *
  exact ⟨named.1, Attributes.wellNamed_insert nameNamed named.2.1 value, named.2.2⟩

theorem wellNamed_withClasses {element : Element} (named : element.wellNamed = true)
    (classes : List String) : (element.withClasses classes).wellNamed = true :=
  wellNamed_withAttribute (by decide) named (.list classes)

theorem wellNamed_withChildren {element : Element} {children : List Node}
    (named : element.wellNamed = true)
    (childrenNamed : ∀ child ∈ children, child.wellNamed = true) :
    (element.withChildren children).wellNamed = true := by
  rw [wellNamed_iff] at *
  refine ⟨named.1, named.2.1, ?_⟩
  rw [withChildren, Forest.wellNamed_eq_all, List.all_append, ← Forest.wellNamed_eq_all,
    named.2.2, Bool.true_and]
  exact List.all_eq_true.2 childrenNamed

theorem wellNamed_withChild {element : Element} {child : Node} (named : element.wellNamed = true)
    (childNamed : child.wellNamed = true) : (element.withChild child).wellNamed = true :=
  wellNamed_withChildren named (by simpa using childNamed)

@[simp] theorem textContent_toNode (element : Element) :
    element.toNode.textContent = Forest.textContent element.children := by
  rw [toNode, Node.textContent_element]

end Element

namespace Forest

@[simp] theorem eraseAttribute_text (name content : String) (rest : List Node) :
    eraseAttribute name (.text content :: rest) = .text content :: eraseAttribute name rest := by
  rw [eraseAttribute, Node.eraseAttribute]

@[simp] theorem eraseAttribute_element (name tag : String) (attributes : Attributes)
    (children rest : List Node) :
    eraseAttribute name (.element tag attributes children :: rest) =
      .element tag (attributes.erase name) (eraseAttribute name children) ::
        eraseAttribute name rest := by
  rw [eraseAttribute, Node.eraseAttribute]

theorem textContent_eraseAttribute (name : String) (forest : List Node) :
    textContent (eraseAttribute name forest) = textContent forest := by
  induction forest using Forest.induction with
  | nil => rfl
  | text content rest inductionHypothesis =>
      rw [eraseAttribute_text, textContent_cons, textContent_cons, inductionHypothesis]
  | element tag attributes children rest childrenHypothesis restHypothesis =>
      rw [eraseAttribute_element, textContent_cons, textContent_cons, Node.textContent_element,
        Node.textContent_element, childrenHypothesis, restHypothesis]

end Forest

theorem Attributes.wellNamed_erase {attributes : Attributes} (named : attributes.wellNamed = true)
    (name : String) : (attributes.erase name).wellNamed = true := by
  rw [wellNamed_iff] at *
  intro entry member
  exact named entry (List.mem_filter.1 member).1

theorem Forest.wellNamed_eraseAttribute {forest : List Node} (named : wellNamed forest = true)
    (name : String) : wellNamed (eraseAttribute name forest) = true := by
  induction forest using Forest.induction with
  | nil => rfl
  | text content rest inductionHypothesis =>
      rw [wellNamed_cons, Bool.and_eq_true] at named
      rw [eraseAttribute_text, wellNamed_cons, Node.wellNamed_text,
        inductionHypothesis named.2, Bool.and_true]
  | element tag attributes children rest childrenHypothesis restHypothesis =>
      simp only [wellNamed_cons, Node.wellNamed_element, Bool.and_eq_true] at named
      obtain ⟨⟨⟨tagNamed, attributesNamed⟩, childrenNamed⟩, restNamed⟩ := named
      simp only [eraseAttribute_element, wellNamed_cons, Node.wellNamed_element, tagNamed,
        Attributes.wellNamed_erase attributesNamed name, childrenHypothesis childrenNamed,
        restHypothesis restNamed, Bool.and_self]

namespace Element

theorem textContent_eraseEverywhere (name : String) (element : Element) :
    (element.eraseEverywhere name).textContent = element.textContent := by
  rw [textContent, textContent, textContent_toNode, textContent_toNode, eraseEverywhere,
    Forest.textContent_eraseAttribute]

theorem textContent_stripScopes (element : Element) :
    element.stripScopes.textContent = element.textContent :=
  textContent_eraseEverywhere scopeAttribute element

theorem wellNamed_stripScopes {element : Element} (named : element.wellNamed = true) :
    element.stripScopes.wellNamed = true := by
  rw [wellNamed_iff] at *
  exact ⟨named.1, Attributes.wellNamed_erase named.2.1 scopeAttribute,
    Forest.wellNamed_eraseAttribute named.2.2 scopeAttribute⟩

end Element

end Listings.Markup

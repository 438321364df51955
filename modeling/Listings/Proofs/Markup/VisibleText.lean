/-
This file reads the text between the tags of written markup and shows that it is that of the tree.
-/

import Listings.Proofs.Markup.Entity
import Listings.Proofs.Markup.Forest

namespace Listings.Markup

/-- Leaves out every tag, from a `<` to the next `>`. -/
def withoutTags (inTag : Bool) : List Char → List Char
  | [] => []
  | c :: rest =>
      if inTag then withoutTags (c != '>') rest
      else if c = '<' then withoutTags true rest
      else c :: withoutTags false rest

/-- What is left without tags, with every entity as its character. -/
def visibleText (html : String) : String :=
  String.ofList (unescape (withoutTags false html.toList))

theorem withoutTags_outside {text : List Char} (noTag : ∀ c ∈ text, c ≠ '<') (rest : List Char) :
    withoutTags false (text ++ rest) = text ++ withoutTags false rest := by
  induction text with
  | nil => rfl
  | cons c more inductionHypothesis =>
      obtain ⟨notOpen, moreNoTag⟩ := List.forall_mem_cons.1 noTag
      rw [List.cons_append, withoutTags, if_neg Bool.false_ne_true, if_neg notOpen,
        inductionHypothesis moreNoTag, List.cons_append]

theorem withoutTags_inside {body : List Char} (unfinished : ∀ c ∈ body, c ≠ '>')
    (rest : List Char) : withoutTags true (body ++ '>' :: rest) = withoutTags false rest := by
  induction body with
  | nil => rfl
  | cons c more inductionHypothesis =>
      obtain ⟨notClose, moreUnfinished⟩ := List.forall_mem_cons.1 unfinished
      have staysInside : (c != '>') = true := bne_iff_ne.2 notClose
      rw [List.cons_append, withoutTags, if_pos rfl, staysInside,
        inductionHypothesis moreUnfinished]

theorem withoutTags_tag {body : List Char} (unfinished : ∀ c ∈ body, c ≠ '>')
    (rest : List Char) :
    withoutTags false ('<' :: (body ++ '>' :: rest)) = withoutTags false rest := by
  rw [withoutTags, if_neg Bool.false_ne_true, if_pos rfl, withoutTags_inside unfinished]

theorem withoutTags_escape (text rest : List Char) :
    withoutTags false (escape text ++ rest) = escape text ++ withoutTags false rest := by
  refine withoutTags_outside (fun c member => ?_) rest
  rintro rfl
  exact absurd (escape_undelimited text _ member) (by decide)

theorem ne_close_of_isName {name : String} (named : isName name = true) :
    ∀ c ∈ name.toList, c ≠ '>' := by
  intro c member
  have isChar := all_of_isName named c member
  rintro rfl
  revert isChar
  decide

theorem ne_close_of_escape (text : List Char) : ∀ c ∈ escape text, c ≠ '>' := by
  intro c member
  have undelimited := escape_undelimited text c member
  rintro rfl
  revert undelimited
  decide

/-- No value of an attribute ends the tag it stands in. -/
theorem Attribute.ne_close_of_html {name : String} (named : isName name = true)
    (value : Attribute) : ∀ c ∈ Attribute.html name value, c ≠ '>' := by
  intro c member
  rw [html] at member
  split at member
  · rcases List.mem_append.1 member with inName | inValue
    · rcases List.mem_cons.1 inName with rfl | inName
      · decide
      · exact ne_close_of_isName named c inName
    · split at inValue
      · rename_i content _
        simp only [List.cons_append, List.mem_cons, List.mem_append, List.not_mem_nil,
          or_false] at inValue
        rcases inValue with rfl | rfl | inContent | rfl
        · decide
        · decide
        · exact ne_close_of_escape _ c inContent
        · decide
      · contradiction
  · contradiction

theorem Attributes.ne_close_of_html {attributes : Attributes}
    (named : attributes.wellNamed = true) : ∀ c ∈ attributes.html, c ≠ '>' := by
  intro c member
  obtain ⟨entry, entryMember, inEntry⟩ := List.mem_flatMap.1 member
  exact Attribute.ne_close_of_html (List.all_eq_true.1 named entry entryMember) entry.2 c inEntry

theorem withoutTags_openTag {tag : String} {attributes : Attributes} (tagNamed : isName tag = true)
    (attributesNamed : attributes.wellNamed = true) (rest : List Char) :
    withoutTags false (openTag tag attributes ++ rest) = withoutTags false rest := by
  have unfinished : ∀ c ∈ tag.toList ++ attributes.html, c ≠ '>' := by
    intro c member
    rcases List.mem_append.1 member with inTag | inAttributes
    · exact ne_close_of_isName tagNamed c inTag
    · exact Attributes.ne_close_of_html attributesNamed c inAttributes
  have written : openTag tag attributes ++ rest =
      '<' :: ((tag.toList ++ attributes.html) ++ '>' :: rest) := by
    simp [openTag]
  rw [written, withoutTags_tag unfinished]

theorem withoutTags_closeTag {tag : String} (tagNamed : isName tag = true) (rest : List Char) :
    withoutTags false (closeTag tag ++ rest) = withoutTags false rest := by
  have unfinished : ∀ c ∈ '/' :: tag.toList, c ≠ '>' := by
    intro c member
    rcases List.mem_cons.1 member with rfl | inTag
    · decide
    · exact ne_close_of_isName tagNamed c inTag
  have written : closeTag tag ++ rest = '<' :: (('/' :: tag.toList) ++ '>' :: rest) := by
    simp [closeTag]
  rw [written, withoutTags_tag unfinished]

/-- Between the tags stand the texts of the tree, escaped. -/
theorem Forest.withoutTags_html {forest : List Node} (named : wellNamed forest = true)
    (rest : List Char) :
    withoutTags false (html forest ++ rest) =
      escape (textContent forest) ++ withoutTags false rest := by
  induction forest using Forest.induction generalizing rest with
  | nil => rfl
  | text content more inductionHypothesis =>
      rw [wellNamed_cons, Bool.and_eq_true] at named
      rw [html_cons, textContent_cons, Node.html_text, Node.textContent_text, List.append_assoc,
        withoutTags_escape, inductionHypothesis named.2, escape_append, List.append_assoc]
  | element tag attributes children more childrenHypothesis restHypothesis =>
      simp only [wellNamed_cons, Node.wellNamed_element, Bool.and_eq_true] at named
      obtain ⟨⟨⟨tagNamed, attributesNamed⟩, childrenNamed⟩, restNamed⟩ := named
      rw [html_cons, textContent_cons, Node.html_element, Node.textContent_element,
        List.append_assoc, List.append_assoc, List.append_assoc,
        withoutTags_openTag tagNamed attributesNamed, childrenHypothesis childrenNamed,
        withoutTags_closeTag tagNamed, restHypothesis restNamed, escape_append, List.append_assoc]

theorem Element.visibleText_html {root : Element} (named : root.wellNamed = true) :
    visibleText root.html = root.textContent := by
  have forestNamed : Forest.wellNamed [root.toNode] = true := by
    rw [Forest.wellNamed_cons, Forest.wellNamed_nil, Bool.and_true]
    exact named
  have shown := Forest.withoutTags_html forestNamed []
  rw [Forest.html_cons, Forest.html_nil, Forest.textContent_cons, Forest.textContent_nil,
    withoutTags, List.append_nil, List.append_nil, List.append_nil, List.append_nil] at shown
  rw [visibleText, html, String.toList_ofList, shown, unescape_escape, textContent]

end Listings.Markup

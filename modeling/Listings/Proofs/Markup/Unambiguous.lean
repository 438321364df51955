/-
This file shows that two forests have the same HTML only if they have the same normal form.
-/

import Listings.Proofs.Markup.NormalForm

namespace Listings.Markup

/-- Two texts end at the same place when what follows each cannot go on with it. -/
theorem append_cancel_of_stop (goesOn : Char → Bool) {first second restA restB : List Char}
    (firstGoesOn : ∀ c ∈ first, goesOn c = true) (secondGoesOn : ∀ c ∈ second, goesOn c = true)
    (stopsA : ∀ c ∈ restA.head?, goesOn c = false) (stopsB : ∀ c ∈ restB.head?, goesOn c = false)
    (same : first ++ restA = second ++ restB) : first = second ∧ restA = restB := by
  have takeStop : ∀ rest : List Char, (∀ c ∈ rest.head?, goesOn c = false) →
      rest.takeWhile goesOn = [] := by
    intro rest stops
    cases rest with
    | nil => rfl
    | cons c rest => simp [stops c rfl]
  have taken := congrArg (List.takeWhile goesOn) same
  rw [List.takeWhile_append_of_pos firstGoesOn, List.takeWhile_append_of_pos secondGoesOn,
    takeStop restA stopsA, takeStop restB stopsB, List.append_nil, List.append_nil] at taken
  subst taken
  exact ⟨rfl, List.append_cancel_left same⟩

/-- A name is read up to the first character that is in no name. -/
theorem name_cancel {first second : String} {restA restB : List Char}
    (firstNamed : isName first = true) (secondNamed : isName second = true)
    (stopsA : ∀ c ∈ restA.head?, isNameChar c = false)
    (stopsB : ∀ c ∈ restB.head?, isNameChar c = false)
    (same : first.toList ++ restA = second.toList ++ restB) :
    first = second ∧ restA = restB := by
  obtain ⟨sameName, sameRest⟩ := append_cancel_of_stop isNameChar
    (all_of_isName firstNamed) (all_of_isName secondNamed) stopsA stopsB same
  exact ⟨String.toList_injective sameName, sameRest⟩

/-- A written text is read up to the first delimiter. -/
theorem escape_cancel {first second : String} {restA restB : List Char}
    (stopsA : ∀ c ∈ restA.head?, isDelimiter c = true)
    (stopsB : ∀ c ∈ restB.head?, isDelimiter c = true)
    (same : escape first.toList ++ restA = escape second.toList ++ restB) :
    first = second ∧ restA = restB := by
  have undelimited : ∀ text : List Char, ∀ c ∈ escape text, (!isDelimiter c) = true := by
    intro text c member
    rw [escape_undelimited text c member]
    rfl
  obtain ⟨sameText, sameRest⟩ := append_cancel_of_stop (fun c => !isDelimiter c)
    (undelimited first.toList) (undelimited second.toList)
    (fun c member => by rw [stopsA c member]; rfl) (fun c member => by rw [stopsB c member]; rfl)
    same
  exact ⟨String.toList_injective (escape_injective sameText), sameRest⟩

namespace Attribute

/-- What follows the name of a written attribute. -/
def valueHtml : Attribute → List Char
  | text value => '=' :: '"' :: escape value.toList ++ ['"']
  | _ => []

theorem html_of_isNormal (name : String) {value : Attribute} (normal : value.isNormal = true) :
    html name value = ' ' :: name.toList ++ valueHtml value := by
  cases value with
  | text content => rfl
  | flag isSet =>
      cases isSet
      · contradiction
      · rfl
  | list items => contradiction

/-- The quote that opens a value tells a value from a flag, and the one that closes it ends it. -/
theorem valueHtml_cancel {first second : Attribute} {restA restB : List Char}
    (firstNormal : first.isNormal = true) (secondNormal : second.isNormal = true)
    (stopsA : restA.head? ≠ some '=') (stopsB : restB.head? ≠ some '=')
    (same : valueHtml first ++ restA = valueHtml second ++ restB) :
    first = second ∧ restA = restB := by
  cases first with
  | list items => contradiction
  | text content =>
      cases second with
      | list items => contradiction
      | text other =>
          simp only [valueHtml, List.cons_append, List.append_assoc, List.nil_append,
            List.cons.injEq, true_and] at same
          have quoteStops : ∀ rest : List Char,
              ∀ c ∈ ('"' :: rest).head?, isDelimiter c = true := by
            intro rest c member
            cases member
            rfl
          obtain ⟨sameContent, sameRest⟩ :=
            escape_cancel (quoteStops restA) (quoteStops restB) same
          rw [sameContent, List.cons.inj sameRest |>.2]
          exact ⟨rfl, rfl⟩
      | flag isSet =>
          exfalso
          apply stopsB
          rw [← List.nil_append restB]
          exact congrArg List.head? same.symm
  | flag isSet =>
      cases isSet
      · contradiction
      cases second with
      | list items => contradiction
      | text other =>
          exfalso
          apply stopsA
          rw [← List.nil_append restA]
          exact congrArg List.head? same
      | flag otherSet =>
          cases otherSet
          · contradiction
          · exact ⟨rfl, same⟩

end Attribute

theorem isNameChar_of_markup {c : Char} (markup : c ∈ [' ', '=', '>']) : isNameChar c = false := by
  simp only [List.mem_cons, List.not_mem_nil, or_false] at markup
  rcases markup with rfl | rfl | rfl <;> decide

namespace Attributes

def entriesHtml (entries : List Entry) : List Char :=
  entries.flatMap fun entry => Attribute.html entry.1 entry.2

/-- A space, the name and the value come before the other attributes. -/
theorem entriesHtml_cons {entry : Entry} (normal : entry.2.isNormal = true) (more : List Entry)
    (rest : List Char) :
    entriesHtml (entry :: more) ++ rest =
      ' ' :: (entry.1.toList ++ (entry.2.valueHtml ++ (entriesHtml more ++ rest))) := by
  rw [entriesHtml, List.flatMap_cons, Attribute.html_of_isNormal entry.1 normal]
  simp only [List.cons_append, List.append_assoc]
  rfl

/-- Attributes start with a space, and what follows them is the end of the tag. -/
theorem head?_entriesHtml {entries : List Entry}
    (normal : (entries.all fun entry => entry.2.isNormal) = true) (rest : List Char) :
    ∀ c ∈ (entriesHtml entries ++ '>' :: rest).head?, c = ' ' ∨ c = '>' := by
  intro c member
  cases entries with
  | nil =>
      cases member
      exact Or.inr rfl
  | cons entry more =>
      rw [List.all_cons, Bool.and_eq_true] at normal
      rw [entriesHtml_cons normal.1] at member
      cases member
      exact Or.inl rfl

/-- What follows the name of an attribute is no part of it. -/
theorem head?_valueHtml (value : Attribute) {following : List Char}
    (separated : ∀ c ∈ following.head?, c = ' ' ∨ c = '>') :
    ∀ c ∈ (value.valueHtml ++ following).head?, isNameChar c = false := by
  intro c member
  refine isNameChar_of_markup ?_
  cases value with
  | text content =>
      cases member
      simp
  | flag isSet =>
      rcases separated c member with rfl | rfl <;> simp
  | list items =>
      rcases separated c member with rfl | rfl <;> simp

theorem head?_ne_equals {following : List Char}
    (separated : ∀ c ∈ following.head?, c = ' ' ∨ c = '>') : following.head? ≠ some '=' := by
  intro equals
  rcases separated '=' equals with same | same <;> contradiction

theorem entriesHtml_cancel {first second : List Entry} {restA restB : List Char}
    (firstNamed : (first.all fun entry => isName entry.1) = true)
    (secondNamed : (second.all fun entry => isName entry.1) = true)
    (firstNormal : (first.all fun entry => entry.2.isNormal) = true)
    (secondNormal : (second.all fun entry => entry.2.isNormal) = true)
    (same : entriesHtml first ++ '>' :: restA = entriesHtml second ++ '>' :: restB) :
    first = second ∧ restA = restB := by
  induction first generalizing second with
  | nil =>
      cases second with
      | nil => exact ⟨rfl, (List.cons.inj same).2⟩
      | cons entry more =>
          rw [List.all_cons, Bool.and_eq_true] at secondNormal
          rw [entriesHtml_cons secondNormal.1] at same
          have heads := (List.cons.inj same).1
          contradiction
  | cons entry more inductionHypothesis =>
      rw [List.all_cons, Bool.and_eq_true] at firstNamed firstNormal
      cases second with
      | nil =>
          rw [entriesHtml_cons firstNormal.1] at same
          have heads := (List.cons.inj same).1
          contradiction
      | cons other others =>
          rw [List.all_cons, Bool.and_eq_true] at secondNamed secondNormal
          have separated := head?_entriesHtml firstNormal.2 restA
          have otherSeparated := head?_entriesHtml secondNormal.2 restB
          rw [entriesHtml_cons firstNormal.1, entriesHtml_cons secondNormal.1] at same
          obtain ⟨sameName, sameTail⟩ := name_cancel firstNamed.1 secondNamed.1
            (head?_valueHtml entry.2 separated) (head?_valueHtml other.2 otherSeparated)
            (List.cons.inj same).2
          obtain ⟨sameValue, sameMore⟩ := Attribute.valueHtml_cancel firstNormal.1 secondNormal.1
            (head?_ne_equals separated) (head?_ne_equals otherSeparated) sameTail
          obtain ⟨sameEntries, sameRest⟩ := inductionHypothesis firstNamed.2 secondNamed.2
            firstNormal.2 secondNormal.2 sameMore
          exact ⟨by rw [Prod.ext sameName sameValue, sameEntries], sameRest⟩

/-- No name goes on into the attributes of a tag. -/
theorem head?_html {attributes : Attributes} (normal : attributes.isNormal = true)
    (rest : List Char) :
    ∀ c ∈ (attributes.html ++ '>' :: rest).head?, isNameChar c = false := by
  intro c member
  refine isNameChar_of_markup ?_
  rcases head?_entriesHtml normal rest c member with rfl | rfl <;> simp

/-- A tag is read up to the `>` that ends it. -/
theorem html_cancel {first second : Attributes} {restA restB : List Char}
    (firstNamed : first.wellNamed = true) (secondNamed : second.wellNamed = true)
    (firstNormal : first.isNormal = true) (secondNormal : second.isNormal = true)
    (same : first.html ++ '>' :: restA = second.html ++ '>' :: restB) :
    first = second ∧ restA = restB := by
  obtain ⟨sameEntries, sameRest⟩ :=
    entriesHtml_cancel firstNamed secondNamed firstNormal secondNormal same
  cases first
  cases second
  exact ⟨by simp_all, sameRest⟩

end Attributes

/-- The name and the attributes of an opening tag are read back from it. -/
theorem openTag_cancel {tag otherTag : String} {attributes otherAttributes : Attributes}
    {restA restB : List Char} (tagNamed : isName tag = true)
    (otherTagNamed : isName otherTag = true) (named : attributes.wellNamed = true)
    (otherNamed : otherAttributes.wellNamed = true)
    (normal : attributes.isNormal = true) (otherNormal : otherAttributes.isNormal = true)
    (same : openTag tag attributes ++ restA = openTag otherTag otherAttributes ++ restB) :
    tag = otherTag ∧ attributes = otherAttributes ∧ restA = restB := by
  have written : ∀ (tag : String) (attributes : Attributes) (rest : List Char),
      openTag tag attributes ++ rest = '<' :: (tag.toList ++ (attributes.html ++ '>' :: rest)) := by
    intro tag attributes rest
    simp [openTag]
  rw [written, written] at same
  obtain ⟨sameTag, sameAfterTag⟩ := name_cancel tagNamed otherTagNamed
    (Attributes.head?_html normal restA) (Attributes.head?_html otherNormal restB)
    (List.cons.inj same).2
  exact ⟨sameTag, Attributes.html_cancel named otherNamed normal otherNormal sameAfterTag⟩

/-- What a reader of written children meets next. -/
inductive Meeting where
  | text
  | element
  | ending

/-- A closing tag ends the children, as does the end of everything. -/
def meets : List Char → Meeting
  | [] => .ending
  | '<' :: '/' :: _ => .ending
  | '<' :: _ => .element
  | _ => .text

theorem meets_of_ne {c : Char} (notOpen : c ≠ '<') (rest : List Char) :
    meets (c :: rest) = .text := by
  unfold meets
  split <;> simp_all

theorem head?_of_meets (written : List Char) (noText : meets written ≠ .text) :
    ∀ c ∈ written.head?, isDelimiter c = true := by
  intro c member
  cases written with
  | nil => contradiction
  | cons first rest =>
      cases member
      by_cases isOpen : c = '<'
      · rw [isOpen]
        rfl
      · exact absurd (meets_of_ne isOpen rest) noText

theorem meets_escape {content : String} (nonempty : content.isEmpty = false) (rest : List Char) :
    meets (escape content.toList ++ rest) = .text := by
  have written : escape content.toList ≠ [] := by
    rw [Ne, escape_eq_nil_iff, String.toList_eq_nil_iff, ← String.isEmpty_iff, nonempty]
    exact Bool.false_ne_true
  obtain ⟨c, more, same⟩ := List.exists_cons_of_ne_nil written
  have undelimited := escape_undelimited content.toList c (by rw [same]; simp)
  rw [same, List.cons_append]
  refine meets_of_ne ?_ _
  rintro rfl
  contradiction

/-- The name of a tag does not start with the mark of a closing tag. -/
theorem meets_openTag {tag : String} (named : isName tag = true) (attributes : Attributes)
    (rest : List Char) : meets (openTag tag attributes ++ rest) = .element := by
  have chars := all_of_isName named
  rw [isName, Bool.and_eq_true, Bool.not_eq_true', ← Bool.not_eq_true, List.isEmpty_iff] at named
  obtain ⟨c, more, same⟩ := List.exists_cons_of_ne_nil named.1
  have isChar := chars c (by rw [same]; simp)
  rw [openTag, same]
  simp only [List.cons_append]
  unfold meets
  split
  · contradiction
  · rename_i slash
    cases slash
    contradiction
  · rfl
  · rename_i notOpen
    exact absurd rfl (notOpen _)

namespace Forest

/-- What stands first in a forest. -/
def meeting : List Node → Meeting
  | [] => .ending
  | .text _ :: _ => .text
  | .element .. :: _ => .element

theorem meets_html {forest : List Node} (named : wellNamed forest = true)
    (normalForest : isNormal forest = true) {rest : List Char} (ends : meets rest = .ending) :
    meets (html forest ++ rest) = meeting forest := by
  cases forest with
  | nil => exact ends
  | cons node more =>
      cases node with
      | text content =>
          rw [isNormal_text, Bool.and_eq_true, Bool.and_eq_true, Bool.not_eq_true'] at normalForest
          rw [html_cons, Node.html_text, List.append_assoc]
          exact meets_escape normalForest.1.1 _
      | element tag attributes children =>
          simp only [wellNamed_cons, Node.wellNamed_element, Bool.and_eq_true] at named
          rw [html_cons, Node.html_element, List.append_assoc, List.append_assoc,
            List.append_assoc]
          exact meets_openTag named.1.1.1 attributes _

theorem meeting_ne_text {forest : List Node} (noText : startsWithText forest = false) :
    meeting forest ≠ .text := by
  intro isText
  cases forest with
  | nil => contradiction
  | cons node more => cases node <;> contradiction

/-- The HTML tells what stands first. -/
theorem meeting_eq {first second : List Node} {restA restB : List Char}
    (firstNamed : wellNamed first = true) (secondNamed : wellNamed second = true)
    (firstNormal : isNormal first = true) (secondNormal : isNormal second = true)
    (endsA : meets restA = .ending) (endsB : meets restB = .ending)
    (same : html first ++ restA = html second ++ restB) : meeting first = meeting second := by
  rw [← meets_html firstNamed firstNormal endsA, same, meets_html secondNamed secondNormal endsB]

/-- A text ends before whatever stands behind it in a forest. -/
theorem stops_of_startsWithText {forest : List Node} (named : wellNamed forest = true)
    (normalForest : isNormal forest = true) (noText : startsWithText forest = false)
    {rest : List Char} (ends : meets rest = .ending) :
    ∀ c ∈ (html forest ++ rest).head?, isDelimiter c = true := by
  refine head?_of_meets _ ?_
  rw [meets_html named normalForest ends]
  exact meeting_ne_text noText

/-- An element is its opening tag, its children and its closing tag. -/
theorem html_element_append (tag : String) (attributes : Attributes) (children : List Node)
    (more : List Node) (rest : List Char) :
    html (.element tag attributes children :: more) ++ rest =
      openTag tag attributes ++ (html children ++ (closeTag tag ++ (html more ++ rest))) := by
  rw [html_cons, Node.html_element, List.append_assoc, List.append_assoc, List.append_assoc]

/-- Forests in normal form are read back from their HTML, up to what ends them. -/
theorem html_cancel {first second : List Node} {restA restB : List Char}
    (firstNamed : wellNamed first = true) (secondNamed : wellNamed second = true)
    (firstNormal : isNormal first = true) (secondNormal : isNormal second = true)
    (endsA : meets restA = .ending) (endsB : meets restB = .ending)
    (same : html first ++ restA = html second ++ restB) : first = second ∧ restA = restB := by
  -- What stands first is read off the HTML, so only equal constructors are left to compare.
  induction first using Forest.induction generalizing second restA restB with
  | nil =>
      have sameMeeting :=
        meeting_eq firstNamed secondNamed firstNormal secondNormal endsA endsB same
      cases second with
      | nil => exact ⟨rfl, same⟩
      | cons node more => cases node <;> contradiction
  | text content rest inductionHypothesis =>
      have sameMeeting :=
        meeting_eq firstNamed secondNamed firstNormal secondNormal endsA endsB same
      rcases second with _ | ⟨⟨other⟩ | _, others⟩
      · contradiction
      · simp only [isNormal_text, Bool.and_eq_true, Bool.not_eq_true'] at firstNormal secondNormal
        simp only [wellNamed_cons, Node.wellNamed_text, Bool.true_and] at firstNamed secondNamed
        rw [html_cons, html_cons, Node.html_text, Node.html_text, List.append_assoc,
          List.append_assoc] at same
        obtain ⟨sameContent, sameTail⟩ := escape_cancel
          (stops_of_startsWithText firstNamed firstNormal.2 firstNormal.1.2 endsA)
          (stops_of_startsWithText secondNamed secondNormal.2 secondNormal.1.2 endsB) same
        obtain ⟨sameRest, sameEnd⟩ := inductionHypothesis firstNamed secondNamed firstNormal.2
          secondNormal.2 endsA endsB sameTail
        exact ⟨by rw [sameContent, sameRest], sameEnd⟩
      · contradiction
  | element tag attributes children rest childrenHypothesis restHypothesis =>
      have sameMeeting :=
        meeting_eq firstNamed secondNamed firstNormal secondNormal endsA endsB same
      rcases second with _ | ⟨_ | ⟨otherTag, otherAttributes, otherChildren⟩, others⟩
      · contradiction
      · contradiction
      · simp only [isNormal_element, Bool.and_eq_true] at firstNormal secondNormal
        simp only [wellNamed_cons, Node.wellNamed_element, Bool.and_eq_true]
          at firstNamed secondNamed
        obtain ⟨⟨⟨tagNamed, attributesNamed⟩, childrenNamed⟩, restNamed⟩ := firstNamed
        obtain ⟨⟨⟨otherTagNamed, otherAttributesNamed⟩, otherChildrenNamed⟩, othersNamed⟩ :=
          secondNamed
        obtain ⟨⟨attributesNormal, childrenNormal⟩, restNormal⟩ := firstNormal
        obtain ⟨⟨otherAttributesNormal, otherChildrenNormal⟩, othersNormal⟩ := secondNormal
        rw [html_element_append, html_element_append] at same
        obtain ⟨sameTag, sameAttributes, sameInside⟩ := openTag_cancel tagNamed otherTagNamed
          attributesNamed otherAttributesNamed attributesNormal otherAttributesNormal same
        obtain ⟨sameChildren, sameAfter⟩ := childrenHypothesis childrenNamed otherChildrenNamed
          childrenNormal otherChildrenNormal rfl rfl sameInside
        subst sameTag
        obtain ⟨sameRest, sameEnd⟩ := restHypothesis restNamed othersNamed restNormal othersNormal
          endsA endsB (List.append_cancel_left sameAfter)
        exact ⟨by rw [sameAttributes, sameChildren, sameRest], sameEnd⟩

theorem wellNamed_map_toNode {roots : List Element}
    (named : ∀ root ∈ roots, root.wellNamed = true) :
    wellNamed (roots.map Element.toNode) = true := by
  rw [wellNamed_eq_all, List.all_map]
  exact List.all_eq_true.2 named

theorem html_eq_iff_normal {first second : List Node} (firstNamed : wellNamed first = true)
    (secondNamed : wellNamed second = true) :
    html first = html second ↔ normal first = normal second := by
  constructor
  · intro same
    have sameWritten : html (normal first) ++ [] = html (normal second) ++ [] := by
      rw [html_normal, html_normal, same]
    exact (html_cancel (wellNamed_normal firstNamed) (wellNamed_normal secondNamed)
      (isNormal_normal first) (isNormal_normal second) rfl rfl sameWritten).1
  · intro same
    rw [← html_normal first, same, html_normal]

end Forest

/-- Elements with the same HTML differ in nothing but what their normal form leaves out, so no
text and no value of an attribute can pass for markup. -/
theorem render_eq_iff_normal_eq {first second : List Element}
    (firstNamed : ∀ root ∈ first, root.wellNamed = true)
    (secondNamed : ∀ root ∈ second, root.wellNamed = true) :
    render first = render second ↔
      Forest.normal (first.map Element.toNode) = Forest.normal (second.map Element.toNode) := by
  rw [render, render, String.ofList_inj]
  exact Forest.html_eq_iff_normal (Forest.wellNamed_map_toNode firstNamed)
    (Forest.wellNamed_map_toNode secondNamed)

theorem render_eq_of_joined_texts :
    (∀ root ∈ [Element.mk "p" (.ofList [("class", .list ["a", "b"]), ("hidden", .flag false)])
      [.text "</", .text "", .text "p>"]], root.wellNamed = true) ∧
    (∀ root ∈ [Element.mk "p" (.ofList [("class", .text "a b")]) [.text "</p>"]],
      root.wellNamed = true) ∧
    render [⟨"p", .ofList [("class", .list ["a", "b"]), ("hidden", .flag false)],
      [.text "</", .text "", .text "p>"]⟩] =
        render [⟨"p", .ofList [("class", .text "a b")], [.text "</p>"]⟩] := by
  refine ⟨by decide, by decide, (render_eq_iff_normal_eq (by decide) (by decide)).2 ?_⟩
  rfl

end Listings.Markup

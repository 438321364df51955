/-
This file brings forests into the one form that their HTML shows.
-/

import Listings.Proofs.Markup.Entity
import Listings.Proofs.Markup.Forest

namespace Listings.Markup

namespace Attribute

/-- What is not written goes, and a list becomes its items with one space between them. -/
def normal? : Attribute → Option Attribute
  | text value => some (text value)
  | flag isSet => if isSet then some (flag true) else none
  | list items => if items.isEmpty then none else some (text (" ".intercalate items))

/-- A text, or a flag that is set. -/
def isNormal : Attribute → Bool
  | text _ => true
  | flag isSet => isSet
  | list _ => false

theorem isNormal_of_normal? {value kept : Attribute} (normal : value.normal? = some kept) :
    kept.isNormal = true := by
  cases value with
  | text content =>
      cases normal
      rfl
  | flag isSet =>
      cases isSet
      · contradiction
      · cases normal
        rfl
  | list items =>
      rw [normal?] at normal
      split at normal
      · contradiction
      · cases normal
        rfl

theorem html_normal? (name : String) (value : Attribute) :
    (value.normal?.elim [] fun kept => html name kept) = html name value := by
  cases value with
  | text content => rfl
  | flag isSet => cases isSet <;> rfl
  | list items =>
      cases items with
      | nil => rfl
      | cons first rest => rfl

end Attribute

def Entry.normal? (entry : Entry) : Option Entry :=
  entry.2.normal?.map fun kept => (entry.1, kept)

theorem Entry.name_of_normal? {entry kept : Entry} (normal : Entry.normal? entry = some kept) :
    kept.1 = entry.1 := by
  obtain ⟨value, _, rfl⟩ := Option.map_eq_some_iff.1 normal
  rfl

namespace Attributes

def normal (attributes : Attributes) : Attributes :=
  ⟨attributes.entries.filterMap Entry.normal?, by
    refine attributes.ascending.filterMap Entry.normal? ?_
    intro a b before keptA normalA keptB normalB
    rw [Entry.Before, Entry.name_of_normal? normalA, Entry.name_of_normal? normalB]
    exact before⟩

def isNormal (attributes : Attributes) : Bool :=
  attributes.entries.all fun entry => entry.2.isNormal

theorem isNormal_normal (attributes : Attributes) : attributes.normal.isNormal = true := by
  refine List.all_eq_true.2 fun kept member => ?_
  obtain ⟨entry, _, normal⟩ := List.mem_filterMap.1 member
  obtain ⟨value, normalValue, rfl⟩ := Option.map_eq_some_iff.1 normal
  exact Attribute.isNormal_of_normal? normalValue

theorem wellNamed_normal {attributes : Attributes} (named : attributes.wellNamed = true) :
    attributes.normal.wellNamed = true := by
  refine List.all_eq_true.2 fun kept member => ?_
  obtain ⟨entry, entryMember, normal⟩ := List.mem_filterMap.1 member
  rw [Entry.name_of_normal? normal]
  exact List.all_eq_true.1 named entry entryMember

theorem html_filterMap_normal? (entries : List Entry) :
    (entries.filterMap Entry.normal?).flatMap (fun entry => Attribute.html entry.1 entry.2) =
      entries.flatMap fun entry => Attribute.html entry.1 entry.2 := by
  induction entries with
  | nil => rfl
  | cons entry rest inductionHypothesis =>
      rw [List.flatMap_cons, ← inductionHypothesis, ← Attribute.html_normal? entry.1 entry.2,
        List.filterMap_cons, Entry.normal?]
      cases entry.2.normal? <;> rfl

theorem html_normal (attributes : Attributes) : attributes.normal.html = attributes.html :=
  html_filterMap_normal? attributes.entries

end Attributes

namespace Forest

/-- Puts a text in front, as one with a text that already stands there. -/
def joinText (content : String) : List Node → List Node
  | .text next :: rest => .text (content ++ next) :: rest
  | forest => if content.isEmpty then forest else .text content :: forest

def startsWithText : List Node → Bool
  | .text _ :: _ => true
  | _ => false

end Forest

mutual

/-- The normal form of a node in front of a forest that is in normal form. -/
def Node.normalBefore : Node → List Node → List Node
  | .text content, rest => Forest.joinText content rest
  | .element tag attributes children, rest =>
      .element tag attributes.normal (Forest.normal children) :: rest

/-- Neighbouring texts are one, and no text is empty. -/
def Forest.normal : List Node → List Node
  | [] => []
  | node :: rest => node.normalBefore (Forest.normal rest)

end

mutual

/-- Whether the node may stand in front of a text is told beside it. -/
def Node.isNormal : Node → Bool → Bool
  | .text content, beforeText => !content.isEmpty && !beforeText
  | .element _ attributes children, _ => attributes.isNormal && Forest.isNormal children

def Forest.isNormal : List Node → Bool
  | [] => true
  | node :: rest => node.isNormal (Forest.startsWithText rest) && Forest.isNormal rest

end

namespace Forest

@[simp] theorem normal_text (content : String) (rest : List Node) :
    normal (.text content :: rest) = joinText content (normal rest) := by
  rw [normal, Node.normalBefore]

@[simp] theorem normal_element (tag : String) (attributes : Attributes)
    (children rest : List Node) :
    normal (.element tag attributes children :: rest) =
      .element tag attributes.normal (normal children) :: normal rest := by
  rw [normal, Node.normalBefore]

@[simp] theorem isNormal_text (content : String) (rest : List Node) :
    isNormal (.text content :: rest) =
      (!content.isEmpty && !startsWithText rest && isNormal rest) := by
  rw [isNormal, Node.isNormal]

@[simp] theorem isNormal_element (tag : String) (attributes : Attributes)
    (children rest : List Node) :
    isNormal (.element tag attributes children :: rest) =
      (attributes.isNormal && isNormal children && isNormal rest) := by
  rw [isNormal, Node.isNormal]

theorem html_joinText (content : String) (forest : List Node) :
    html (joinText content forest) = escape content.toList ++ html forest := by
  unfold joinText
  split
  · rename_i next rest
    rw [html_cons, html_cons, Node.html_text, Node.html_text, String.toList_append,
      escape_append, List.append_assoc]
  · split
    · rename_i isEmpty
      rw [String.isEmpty_iff.1 isEmpty]
      rfl
    · rw [html_cons, Node.html_text]

theorem isNormal_joinText {content : String} {forest : List Node}
    (normalForest : isNormal forest = true) : isNormal (joinText content forest) = true := by
  unfold joinText
  split
  · rename_i next rest
    rw [isNormal_text, Bool.and_eq_true, Bool.and_eq_true] at normalForest ⊢
    refine ⟨⟨?_, normalForest.1.2⟩, normalForest.2⟩
    have nonempty := normalForest.1.1
    rw [Bool.not_eq_true', ← Bool.not_eq_true, String.isEmpty_iff] at nonempty ⊢
    simp [nonempty]
  · rename_i notText
    split
    · exact normalForest
    · rename_i nonempty
      have separate : startsWithText forest = false := by
        unfold startsWithText
        split
        · rename_i next rest
          exact absurd rfl (notText next rest)
        · rfl
      simp [nonempty, separate, normalForest]

theorem wellNamed_joinText {content : String} {forest : List Node}
    (named : wellNamed forest = true) : wellNamed (joinText content forest) = true := by
  unfold joinText
  split
  · simpa using named
  · split
    · exact named
    · simpa using named

theorem html_normal (forest : List Node) : html (normal forest) = html forest := by
  induction forest using Forest.induction with
  | nil => rfl
  | text content rest inductionHypothesis =>
      rw [normal_text, html_joinText, inductionHypothesis, html_cons, Node.html_text]
  | element tag attributes children rest childrenHypothesis restHypothesis =>
      rw [normal_element, html_cons, html_cons, Node.html_element, Node.html_element,
        childrenHypothesis, restHypothesis, openTag, openTag, Attributes.html_normal]

theorem isNormal_normal (forest : List Node) : isNormal (normal forest) = true := by
  induction forest using Forest.induction with
  | nil => rfl
  | text content rest inductionHypothesis =>
      rw [normal_text]
      exact isNormal_joinText inductionHypothesis
  | element tag attributes children rest childrenHypothesis restHypothesis =>
      rw [normal_element, isNormal_element, Attributes.isNormal_normal, childrenHypothesis,
        restHypothesis]
      rfl

theorem wellNamed_normal {forest : List Node} (named : wellNamed forest = true) :
    wellNamed (normal forest) = true := by
  induction forest using Forest.induction with
  | nil => rfl
  | text content rest inductionHypothesis =>
      rw [wellNamed_cons, Bool.and_eq_true] at named
      rw [normal_text]
      exact wellNamed_joinText (inductionHypothesis named.2)
  | element tag attributes children rest childrenHypothesis restHypothesis =>
      simp only [wellNamed_cons, Node.wellNamed_element, Bool.and_eq_true] at named
      obtain ⟨⟨⟨tagNamed, attributesNamed⟩, childrenNamed⟩, restNamed⟩ := named
      simp only [normal_element, wellNamed_cons, Node.wellNamed_element, tagNamed,
        Attributes.wellNamed_normal attributesNamed, childrenHypothesis childrenNamed,
        restHypothesis restNamed, Bool.and_self]

end Forest

end Listings.Markup

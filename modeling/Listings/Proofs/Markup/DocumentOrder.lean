/-
This file lists the nodes of a tree in document order and shows that the search for a tag and the
text of a tree follow it.
-/

import Listings.Proofs.Markup.Everywhere
import Mathlib.Data.List.Sort

namespace Listings.Markup

def Node.text? : Node → Option String
  | .text content => some content
  | .element _ _ _ => none

mutual

/-- All nodes of the tree under their paths, each before what is below it. -/
def Node.places : Node → List (List Nat × Node)
  | .text content => [([], .text content)]
  | .element tag attributes children =>
      ([], .element tag attributes children) :: Forest.places 0 children

/-- The nodes of each tree come before those of the next. -/
def Forest.places (index : Nat) : List Node → List (List Nat × Node)
  | [] => []
  | node :: rest =>
      node.places.map (fun place => (index :: place.1, place.2)) ++ Forest.places (index + 1) rest

end

/-- Paths ascend index by index, and a path is followed by those that lead on from it. -/
def Ascending (places : List (List Nat × Node)) : Prop :=
  places.Pairwise fun first second => first.1 < second.1

namespace Forest

theorem mem_places_iff {index : Nat} {forest : List Node} {path : List Nat} {found : Node} :
    (path, found) ∈ places index forest ↔ ∃ offset child below, path = (index + offset) :: below ∧
      forest[offset]? = some child ∧ (below, found) ∈ child.places := by
  induction forest generalizing index with
  | nil => simp [places]
  | cons node rest inductionHypothesis =>
      rw [places, List.mem_append, List.mem_map, inductionHypothesis]
      constructor
      · rintro (⟨⟨below, _⟩, member, same⟩ | ⟨offset, child, below, rfl, isChild, member⟩)
        · cases same
          exact ⟨0, node, below, rfl, rfl, member⟩
        · exact ⟨offset + 1, child, below, by rw [Nat.add_right_comm, Nat.add_assoc], isChild,
            member⟩
      · rintro ⟨offset, child, below, rfl, isChild, member⟩
        cases offset with
        | zero =>
            cases isChild
            exact Or.inl ⟨(below, found), member, rfl⟩
        | succ offset =>
            exact Or.inr ⟨offset, child, below, by rw [Nat.add_right_comm, Nat.add_assoc], isChild,
              member⟩

theorem ascending_places {forest : List Node} (each : ∀ node ∈ forest, Ascending node.places)
    (index : Nat) : Ascending (places index forest) := by
  induction forest generalizing index with
  | nil => exact List.Pairwise.nil
  | cons node rest inductionHypothesis =>
      obtain ⟨nodeAscends, restAscend⟩ := List.forall_mem_cons.1 each
      rw [places, Ascending, List.pairwise_append, List.pairwise_map]
      refine ⟨nodeAscends.imp fun less => ?_, inductionHypothesis restAscend (index + 1), ?_⟩
      · exact List.cons_lt_cons_iff.2 (Or.inr ⟨rfl, less⟩)
      · rintro _ first ⟨path, found⟩ second
        obtain ⟨place, _, rfl⟩ := List.mem_map.1 first
        obtain ⟨offset, _, below, rfl, _, _⟩ := mem_places_iff.1 second
        exact List.cons_lt_cons_iff.2 (Or.inl (by omega))

/-- What is looked for in the nodes alone is found tree by tree. -/
theorem filterMap_places {β : Type} (look : Node → Option β) (index : Nat) (forest : List Node) :
    (places index forest).filterMap (fun place => look place.2) =
      forest.flatMap fun node => node.places.filterMap fun place => look place.2 := by
  induction forest generalizing index with
  | nil => rfl
  | cons node rest inductionHypothesis =>
      rw [places, List.filterMap_append, List.filterMap_map, inductionHypothesis,
        List.flatMap_cons]
      rfl

theorem find?_eq_findSome? (tag : String) (forest : List Node) :
    find? tag forest = forest.findSome? (Node.find? tag) := by
  induction forest with
  | nil => rfl
  | cons node rest inductionHypothesis =>
      rw [find?, List.findSome?_cons, inductionHypothesis]
      cases node.find? tag <;> rfl

theorem textContent_eq_flatMap (forest : List Node) :
    textContent forest = forest.flatMap Node.textContent := by
  induction forest with
  | nil => rfl
  | cons node rest inductionHypothesis =>
      rw [textContent_cons, inductionHypothesis, List.flatMap_cons]

end Forest

namespace Node

variable {node : Node}

theorem mem_places_iff {path : List Nat} {found : Node} :
    (path, found) ∈ node.places ↔ node.nodeAt? path = some found := by
  induction node using Node.induction generalizing path with
  | text content => cases path <;> simp [places, nodeAt?, eq_comm]
  | element tag attributes children each =>
      rw [places, List.mem_cons, Forest.mem_places_iff]
      cases path with
      | nil => simp [nodeAt?, eq_comm]
      | cons first below =>
          rw [nodeAt?, Option.bind_eq_some_iff]
          constructor
          · rintro (same | ⟨offset, child, _, same, isChild, member⟩)
            · cases same
            · cases same
              rw [Nat.zero_add]
              exact ⟨child, isChild, (each child (List.mem_of_getElem? isChild)).1 member⟩
          · rintro ⟨child, isChild, isThere⟩
            exact Or.inr ⟨first, child, below, by rw [Nat.zero_add], isChild,
              (each child (List.mem_of_getElem? isChild)).2 isThere⟩

theorem ascending_places (node : Node) : Ascending node.places := by
  induction node using Node.induction with
  | text content => exact List.pairwise_singleton _ _
  | element tag attributes children each =>
      rw [places, Ascending, List.pairwise_cons]
      refine ⟨?_, Forest.ascending_places each 0⟩
      rintro ⟨path, found⟩ member
      obtain ⟨offset, _, below, rfl, _, _⟩ := Forest.mem_places_iff.1 member
      exact List.nil_lt_cons _ _

/-- The search goes into an element before it goes on. -/
theorem find?_eq_find?_places (tag : String) (node : Node) :
    node.find? tag = (node.places.filterMap fun place => place.2.element?).find? (·.tag = tag) := by
  induction node using Node.induction with
  | text content => rfl
  | element own attributes children each =>
      have below : Forest.find? tag children =
          ((Forest.places 0 children).filterMap fun place => place.2.element?).find?
            (·.tag = tag) := by
        rw [Forest.find?_eq_findSome?, Forest.filterMap_places, List.find?_flatMap,
          ← List.head?_filterMap, ← List.head?_filterMap, List.filterMap_congr each]
      rw [find?, places, below]
      by_cases here : own = tag
      · rw [if_pos here]
        simp [element?, here]
      · rw [if_neg here]
        simp [element?, here]

theorem textContent_eq_flatMap_places (node : Node) :
    node.textContent =
      (node.places.filterMap fun place => place.2.text?).flatMap String.toList := by
  induction node using Node.induction with
  | text content => simp [places, text?]
  | element tag attributes children each =>
      rw [textContent_element, places, List.filterMap_cons_none rfl, Forest.filterMap_places,
        Forest.textContent_eq_flatMap, List.flatMap_assoc]
      exact List.flatMap_congr each

end Node

/-- In ascending places, the first that is wanted is the one with the least path. -/
theorem Ascending.find?_eq_some_iff {places : List (List Nat × Node)} (ascends : Ascending places)
    {wanted : List Nat × Node → Bool} {place : List Nat × Node} :
    places.find? wanted = some place ↔ place ∈ places ∧ wanted place = true ∧
      ∀ earlier ∈ places, earlier.1 < place.1 → wanted earlier = false := by
  constructor
  · intro isFound
    obtain ⟨isWanted, before, after, rfl, notBefore⟩ := List.find?_eq_some_iff_append.1 isFound
    refine ⟨by simp, isWanted, ?_⟩
    intro earlier member less
    have laterAscend := (List.pairwise_append.1 ascends).2.1
    rcases List.mem_append.1 member with inBefore | notInBefore
    · simpa using notBefore earlier inBefore
    · rcases List.mem_cons.1 notInBefore with rfl | inAfter
      · exact absurd less (List.lt_irrefl _)
      · exact absurd less (List.lt_asymm ((List.pairwise_cons.1 laterAscend).1 earlier inAfter))
  · rintro ⟨member, isWanted, notEarlier⟩
    obtain ⟨before, after, rfl⟩ := List.append_of_mem member
    refine List.find?_eq_some_iff_append.2 ⟨isWanted, before, after, rfl, ?_⟩
    intro earlier inBefore
    have less := (List.pairwise_append.1 ascends).2.2 earlier inBefore place List.mem_cons_self
    simp [notEarlier earlier (List.mem_append_left _ inBefore) less]

namespace Element

/-- All nodes of the tree are listed, each once and in the order in which the document has them. -/
structure HasInOrder (root : Element) (places : List (List Nat × Node)) : Prop where
  complete : ∀ path node, (path, node) ∈ places ↔ root.toNode.nodeAt? path = some node
  ascends : Ascending places

def elements (root : Element) : List Element :=
  root.toNode.places.filterMap fun place => place.2.element?

def texts (root : Element) : List String :=
  root.toNode.places.filterMap fun place => place.2.text?

theorem hasInOrder_iff {root : Element} {places : List (List Nat × Node)} :
    root.HasInOrder places ↔ places = root.toNode.places := by
  constructor
  · rintro ⟨complete, ascends⟩
    refine List.Pairwise.eq_of_mem_iff ascends root.toNode.ascending_places ?_
    rintro ⟨path, node⟩
    rw [complete, Node.mem_places_iff]
  · rintro rfl
    exact ⟨fun _ _ => Node.mem_places_iff, root.toNode.ascending_places⟩

theorem at?_eq_some_iff {root element : Element} {path : List Nat} :
    root.at? path = some element ↔
      ∃ node, (path, node) ∈ root.toNode.places ∧ node.element? = some element := by
  simp only [at?, Node.at?_eq_bind, Option.bind_eq_some_iff, Node.mem_places_iff]

theorem mem_elements_iff {root element : Element} :
    element ∈ root.elements ↔ ∃ path, root.at? path = some element := by
  simp only [elements, List.mem_filterMap, Prod.exists, at?_eq_some_iff]

theorem find?_eq_find?_elements (root : Element) (tag : String) :
    root.find? tag = root.elements.find? (·.tag = tag) :=
  root.toNode.find?_eq_find?_places tag

theorem find?_eq_none_iff {root : Element} {tag : String} :
    root.find? tag = none ↔ root.toNode.Everywhere fun element => element.tag ≠ tag := by
  rw [find?_eq_find?_elements, List.find?_eq_none]
  simp only [mem_elements_iff, decide_eq_true_eq]
  exact ⟨fun none path element isThere => none element ⟨path, isThere⟩,
    fun none element ⟨path, isThere⟩ => none path element isThere⟩

theorem find?_eq_some_iff {root found : Element} {tag : String} :
    root.find? tag = some found ↔ ∃ path, root.at? path = some found ∧ found.tag = tag ∧
      ∀ earlier < path, ∀ other, root.at? earlier = some other → other.tag ≠ tag := by
  have ascends := root.toNode.ascending_places
  rw [find?_eq_find?_elements, elements, List.find?_filterMap, Option.bind_eq_some_iff]
  simp only [Prod.exists, at?_eq_some_iff, ascends.find?_eq_some_iff, Prod.forall]
  constructor
  · rintro ⟨path, node, ⟨member, isWanted, notEarlier⟩, isFound⟩
    refine ⟨path, ⟨node, member, isFound⟩, by simpa [isFound] using isWanted, ?_⟩
    rintro earlier less other ⟨otherNode, isThere, isOther⟩
    simpa [isOther] using notEarlier earlier otherNode isThere less
  · rintro ⟨path, ⟨node, member, isFound⟩, hasTag, notEarlier⟩
    refine ⟨path, node, ⟨member, by simpa [isFound] using hasTag, ?_⟩, isFound⟩
    intro earlier otherNode isThere less
    rw [Option.any_eq_false]
    intro other isOther
    simpa using notEarlier earlier less other ⟨otherNode, isThere, isOther⟩

theorem textContent_eq_join_texts (root : Element) : root.textContent = String.join root.texts := by
  rw [textContent, Node.textContent_eq_flatMap_places, ← String.toList_join, String.ofList_toList]
  rfl

/-- The nodes of a tree have one order, that of their paths. The search for a tag gives the first
element with it in that order, wherever the element is nested, and nothing only if there is none.
The text of the tree is all its texts in that order. -/
theorem find?_and_text_follow_document_order (root : Element) :
    (∀ places, root.HasInOrder places ↔ places = root.toNode.places) ∧
    (∀ tag, root.find? tag = root.elements.find? (·.tag = tag)) ∧
    (∀ tag found, root.find? tag = some found ↔
      ∃ path, root.at? path = some found ∧ found.tag = tag ∧
        ∀ earlier < path, ∀ other, root.at? earlier = some other → other.tag ≠ tag) ∧
    (∀ tag, root.find? tag = none ↔ root.toNode.Everywhere fun element => element.tag ≠ tag) ∧
    root.textContent = String.join root.texts :=
  ⟨fun _ => hasInOrder_iff, root.find?_eq_find?_elements, fun _ _ => find?_eq_some_iff,
    fun _ => find?_eq_none_iff, root.textContent_eq_join_texts⟩

/-- What is deep in an earlier child comes before a later child. -/
example :
    let root : Element := ⟨"pre", ∅, [.text "0", .element "code" ∅ [.element "b" ∅ [.text "1"]],
      .element "b" ∅ [.text "2"]]⟩
    (root.find? "b").map textContent = some "1" ∧ root.textContent = "012" := by
  decide

end Element

end Listings.Markup

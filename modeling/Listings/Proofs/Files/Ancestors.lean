/-
This file shows that the folders above a path come to an end.
-/

import Listings.Files.Path
import Listings.Proofs.Text.Pieces

namespace Listings

namespace Text

variable {separator piece : List Char} {back : List (List Char)}

theorem length_le_join (member : piece ∈ back) : piece.length ≤ (join separator back).length := by
  induction back with
  | nil => contradiction
  | cons first more inductionHypothesis =>
      cases more with
      | nil =>
          rw [List.mem_singleton.1 member]
          exact Nat.le_refl _
      | cons next rest =>
          rw [join_cons _ _ (List.cons_ne_nil next rest), List.length_append, List.length_append]
          obtain isFirst | inMore := List.mem_cons.1 member
          · rw [isFirst]
            omega
          · have bounded := inductionHypothesis inMore
            omega

/-- Pieces that are taken away at the end make a text shorter. -/
theorem length_join_append_lt (separator : List Char) (front : List (List Char))
    (member : piece ∈ back) (nonempty : piece ≠ []) :
    (join separator front).length < (join separator (front ++ back)).length := by
  have positive : 0 < (join separator back).length :=
    Nat.lt_of_lt_of_le (List.length_pos_iff.2 nonempty) (length_le_join member)
  induction front with
  | nil => exact positive
  | cons first more inductionHypothesis =>
      have another : more ++ back ≠ [] := by
        have someBack := List.ne_nil_of_mem member
        simp [someBack]
      rw [List.cons_append, join_cons _ _ another, List.length_append, List.length_append]
      cases more with
      | nil =>
          rw [List.nil_append]
          simp only [join]
          omega
      | cons next rest =>
          rw [join_cons _ _ (List.cons_ne_nil next rest), List.length_append, List.length_append]
          omega

end Text

namespace Path

open Text

theorem anchor_append_drop (path : List Char) :
    anchor path ++ path.drop (anchor path).length = path := by
  unfold anchor
  split <;> rfl

theorem ne_nil_of_isEmptyName_eq_false {name : List Char} (named : isEmptyName name = false) :
    name ≠ [] := by
  rintro rfl
  contradiction

/-- What is left of a list once the last item to keep is gone, and those around it that are not. -/
theorem exists_back_of_dropWhile_reverse {α : Type} {drops : α → Bool} {list rest : List α}
    {last : α} (found : list.reverse.dropWhile drops = last :: rest) :
    ∃ back, list = (rest.dropWhile drops).reverse ++ back ∧ last ∈ back ∧ drops last = false := by
  obtain ⟨skipped, cut⟩ := List.dropWhile_suffix (l := list.reverse) drops
  obtain ⟨dropped, kept⟩ := List.dropWhile_suffix (l := rest) drops
  have stops := List.head?_dropWhile_not drops list.reverse
  rw [found] at stops cut
  refine ⟨dropped.reverse ++ last :: skipped.reverse, ?_, by simp, stops⟩
  rw [← List.reverse_inj, ← cut]
  simp [kept]

/-- A folder has a shorter path than what is in it. -/
theorem length_parent? {path folder : List Char} (isParent : parent? path = some folder) :
    folder.length < path.length := by
  have whole := congrArg List.length (anchor_append_drop path)
  rw [List.length_append] at whole
  unfold parent? at isParent
  dsimp only at isParent
  split at isParent
  · rename_i name above found
    cases isParent
    obtain ⟨back, cut, inBack, named⟩ := exists_back_of_dropWhile_reverse found
    have shorter := length_join_append_lt ['/'] (above.dropWhile isEmptyName).reverse inBack
      (ne_nil_of_isEmptyName_eq_false named)
    rw [← cut, join_pieces] at shorter
    rw [List.length_append]
    omega
  · split at isParent
    · rename_i isDot
      cases isParent
      have dot : (anchor path).length = 1 := by rw [beq_iff_eq.1 isDot]; rfl
      simp only [List.length_nil]
      omega
    · contradiction

theorem chain_eq_chain {steps more : Nat} {path : List Char} (enough : path.length < steps)
    (alsoEnough : path.length < more) : chain steps path = chain more path := by
  induction steps generalizing more path with
  | zero => exact absurd enough (Nat.not_lt_zero _)
  | succ steps inductionHypothesis =>
      cases more with
      | zero => exact absurd alsoEnough (Nat.not_lt_zero _)
      | succ more =>
          rw [chain, chain]
          cases isParent : parent? path with
          | none => rfl
          | some folder =>
              have shorter := length_parent? isParent
              have same : chain steps folder = chain more folder :=
                inductionHypothesis (by omega) (by omega)
              dsimp only
              rw [same]

/-- The folders above a path are those above its parent. -/
theorem ancestors_eq (path : List Char) :
    ancestors path = path :: match parent? path with
      | some folder => ancestors folder
      | none => [] := by
  rw [ancestors, chain]
  cases isParent : parent? path with
  | none => rfl
  | some folder =>
      have shorter := length_parent? isParent
      dsimp only
      rw [ancestors, chain_eq_chain shorter (Nat.lt_succ_self _)]

example : ancestors "/a//b/.".toList = ["/a//b/.".toList, "/a".toList, ['/']] := by rfl

/-- The first path with a property on the way up from another. -/
inductive Nearest (holds : List Char → Prop) : List Char → List Char → Prop where
  | here {path : List Char} (here : holds path) : Nearest holds path path
  | above {path folder found : List Char} (notHere : ¬ holds path)
      (isParent : parent? path = some folder) (nearest : Nearest holds folder found) :
      Nearest holds path found

theorem find?_ancestors {holds : List Char → Bool} {path found : List Char} :
    (ancestors path).find? holds = some found ↔ Nearest (holds · = true) path found := by
  constructor
  · intro first
    induction length : path.length using Nat.strongRecOn generalizing path with
    | ind size inductionHypothesis =>
        rw [ancestors_eq, List.find?_cons] at first
        cases isHere : holds path with
        | true =>
            rw [isHere] at first
            cases first
            exact .here isHere
        | false =>
            rw [isHere] at first
            cases isParent : parent? path with
            | none =>
                rw [isParent] at first
                contradiction
            | some folder =>
                rw [isParent] at first
                have shorter := length_parent? isParent
                have nearest := inductionHypothesis folder.length (length ▸ shorter) first rfl
                exact .above (by simp [isHere]) isParent nearest
  · intro nearest
    induction nearest with
    | here isHere => rw [ancestors_eq, List.find?_cons, isHere]
    | above notHere isParent _ inductionHypothesis =>
        rw [ancestors_eq, List.find?_cons, isParent, Bool.eq_false_iff.2 notHere]
        exact inductionHypothesis

end Path

end Listings

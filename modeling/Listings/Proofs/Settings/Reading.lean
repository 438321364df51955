/-
This file says how a text is read once it opens a brace behind some dollar sign. Names without
braces refer to variables there as well, and two dollar signs stand for one.
-/

import Listings.Proofs.Settings.Template

namespace Listings

namespace TemplatePart

/-- What stands between braces refers to a variable. A default begins behind the first `:-`, unless
this comes before any name. -/
inductive RefersBy : TemplatePart → List Char → Prop where
  | required {inside : List Char}
      (undivided : ∀ name default, inside = name ++ [':', '-'] ++ default →
        [':', '-'] <+: inside) :
      RefersBy (.reference (String.ofList inside) none) inside
  | optional {name default : List Char} (nonempty : name ≠ [])
      (isFirst : ∀ earlier rest, name ++ [':', '-'] ++ default = earlier ++ [':', '-'] ++ rest →
        name.length ≤ earlier.length) :
      RefersBy (.reference (String.ofList name) (some (String.ofList default)))
        (name ++ [':', '-'] ++ default)

variable {part : TemplatePart} {inside : List Char}

theorem RefersBy.reference_eq (refers : part.RefersBy inside) :
    Template.reference inside = part := by
  cases refers with
  | required undivided =>
      unfold Template.reference
      split
      · rename_i c name default found
        have divided := Text.eq_append_of_cut? found
        obtain ⟨rest, starts⟩ := undivided _ _ divided
        have atStart : inside = [] ++ [':', '-'] ++ rest := starts.symm
        have shorter := Text.length_le_of_cut? found atStart
        simp at shorter
      · rfl
  | @optional name default nonempty isFirst =>
      have stands : (Text.cut? [':', '-'] (name ++ [':', '-'] ++ default)).isSome :=
        Text.isSome_cut?_iff.2 ⟨name, default, rfl⟩
      obtain ⟨⟨before, after⟩, found⟩ := Option.isSome_iff_exists.1 stands
      have divided := Text.eq_append_of_cut? found
      have sameLength : name.length = before.length :=
        Nat.le_antisymm (isFirst _ _ divided) (Text.length_le_of_cut? found rfl)
      rw [List.append_assoc, List.append_assoc] at divided
      obtain ⟨rfl, sameRest⟩ := List.append_inj divided sameLength
      obtain rfl := List.append_cancel_left sameRest
      obtain ⟨c, more, rfl⟩ := List.exists_cons_of_ne_nil nonempty
      rw [Template.reference, found]

theorem refersBy_reference (inside : List Char) : (Template.reference inside).RefersBy inside := by
  cases found : Text.cut? [':', '-'] inside with
  | none =>
      have undivided : ¬ [':', '-'] <:+: inside := by
        rw [← Text.isSome_cut?_iff, found]
        exact Bool.false_ne_true
      rw [Template.reference, found]
      exact .required fun name default divided => absurd ⟨name, default, divided.symm⟩ undivided
  | some sides =>
      obtain ⟨name, default⟩ := sides
      have divided := Text.eq_append_of_cut? found
      cases name with
      | nil =>
          rw [Template.reference, found]
          exact .required fun _ _ _ => ⟨default, divided.symm⟩
      | cons c name =>
          rw [Template.reference, found]
          dsimp only
          rw [divided] at found ⊢
          exact .optional (List.cons_ne_nil c name) fun earlier rest stands =>
            Text.length_le_of_cut? found stands

end TemplatePart

namespace Template

variable {text : List Char} {template : Template}

/-- How a text is read that opens a brace behind some dollar sign. -/
inductive Reads : List Char → Template → Prop where
  | nil : Reads [] []
  | braced {inside rest : List Char} {part : TemplatePart} {template : Template}
      (unclosed : '\x7d' ∉ inside) (refers : part.RefersBy inside) (reads : Reads rest template) :
      Reads ('$' :: '\x7b' :: (inside ++ '\x7d' :: rest)) (part :: template)
  | bare {name rest : List Char} {template : Template} (nonempty : name ≠ [])
      (isName : ∀ c ∈ name, isNameChar c = true) (ends : ∀ c ∈ rest.head?, isNameChar c = false)
      (reads : Reads rest template) :
      Reads ('$' :: (name ++ rest)) (.reference (String.ofList name) none :: template)
  | doubled {rest : List Char} {template : Template} (reads : Reads rest template) :
      Reads ('$' :: '$' :: rest) (.character '$' :: template)
  | dollar {rest : List Char} {template : Template} (leaves : LeavesDollar rest)
      (reads : Reads rest template) : Reads ('$' :: rest) (.character '$' :: template)
  | character {c : Char} {rest : List Char} {template : Template} (notDollar : c ≠ '$')
      (reads : Reads rest template) : Reads (c :: rest) (.character c :: template)

theorem isNameChar_eq_false : isNameChar '\x7b' = false ∧ isNameChar '$' = false := by
  simp only [isNameChar, Text.isAlphanumeric, Text.inRanges_eq_any_toList]
  decide +kernel

/-- A name goes on for as long as it can. -/
theorem takeWhile_isNameChar {name rest : List Char} (isName : ∀ c ∈ name, isNameChar c = true)
    (ends : ∀ c ∈ rest.head?, isNameChar c = false) :
    (name ++ rest).takeWhile isNameChar = name ∧ (name ++ rest).dropWhile isNameChar = rest := by
  rw [List.takeWhile_append_of_pos isName, List.dropWhile_append_of_pos isName]
  cases rest with
  | nil => simp
  | cons c more =>
      have notName : isNameChar c = false := ends c rfl
      simp [notName]

theorem Reads.read_eq (reads : Reads text template) : read text = template := by
  induction reads with
  | nil => rw [read]
  | braced unclosed refers _ inductionHypothesis =>
      rw [read_closed unclosed, refers.reference_eq, inductionHypothesis]
  | @bare name rest template nonempty isName ends _ inductionHypothesis =>
      obtain ⟨taken, dropped⟩ := takeWhile_isNameChar isName ends
      obtain ⟨c, more, rfl⟩ := List.exists_cons_of_ne_nil nonempty
      have starts : isNameChar c = true := isName c List.mem_cons_self
      have notSpecial : ∀ special, isNameChar special = false → ∀ others,
          c :: more ++ rest ≠ special :: others := by
        intro special notName others same
        rw [(List.cons.inj same).1, notName] at starts
        exact Bool.false_ne_true starts
      rw [read_bare (notSpecial '\x7b' isNameChar_eq_false.1)
        (notSpecial '$' isNameChar_eq_false.2), taken, dropped, inductionHypothesis]
      rfl
  | doubled _ inductionHypothesis => rw [read_doubled, inductionHypothesis]
  | dollar leaves _ inductionHypothesis => rw [read_dollar leaves, inductionHypothesis]
  | character notDollar _ inductionHypothesis => rw [read_of_ne notDollar, inductionHypothesis]

theorem reads_read (text : List Char) : Reads text (read text) := by
  fun_induction read text with
  | case1 rest inside after cut inductionHypothesis =>
      obtain ⟨rfl, unclosed⟩ := Text.cutAt?_eq_some_iff.1 cut
      exact .braced unclosed (TemplatePart.refersBy_reference inside) inductionHypothesis
  | case2 rest uncut inductionHypothesis =>
      have unclosed := Text.cutAt?_eq_none_iff.1 uncut
      exact .dollar (.unclosed unclosed) (.character (by decide) inductionHypothesis)
  | case3 rest inductionHypothesis => exact .doubled inductionHypothesis
  | case4 rest notOpened notDoubled name noName inductionHypothesis =>
      refine .dollar ?_ inductionHypothesis
      cases rest with
      | nil => exact .nothing
      | cons c more =>
          refine .character ?_ ?_ ?_
          · rintro rfl
            exact notOpened more rfl
          · rintro rfl
            exact notDoubled more rfl
          · cases starts : isNameChar c with
            | false => rfl
            | true => simp [name, starts] at noName
  | case5 rest notOpened notDoubled name isName inductionHypothesis =>
      have whole : name ++ rest.dropWhile isNameChar = rest := List.takeWhile_append_dropWhile
      have ends : ∀ c ∈ (rest.dropWhile isNameChar).head?, isNameChar c = false := by
        intro c isHead
        have stops := List.head?_dropWhile_not isNameChar rest
        rw [isHead] at stops
        exact stops
      have nonempty : name ≠ [] := by simpa using isName
      have reads := Reads.bare nonempty (fun c member => List.mem_takeWhile_imp member) ends
        inductionHypothesis
      rw [whole] at reads
      exact reads
  | case6 c rest _ _ notDollar inductionHypothesis => exact .character notDollar inductionHypothesis
  | case7 => exact .nil

/-- Every text is read in this way, and in no other. -/
theorem reads_iff : Reads text template ↔ read text = template := by
  constructor
  · exact Reads.read_eq
  · rintro rfl
    exact reads_read text

end Template

end Listings

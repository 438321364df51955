/-
This file says what a text means in which only braces refer to variables, and when it is read so.
-/

import Listings.Proofs.Text.Pieces
import Listings.Settings.Template

namespace Listings

namespace TemplatePart

/-- What stands between the braces of a reference. -/
def inside (name : String) : Option String → List Char
  | none => name.toList
  | some default => name.toList ++ ':' :: ('-' :: default.toList)

def written : TemplatePart → List Char
  | character c => [c]
  | reference name default => '$' :: '\x7b' :: (inside name default ++ ['\x7d'])

/-- A name of a variable. -/
structure IsName (name : String) : Prop where
  nonempty : name.toList ≠ []
  plain : ∀ c ∈ name.toList, c.isAlphanum ∨ c = '_'

/-- The braces make a reference, and its default ends with the first one that closes. -/
inductive IsReference : TemplatePart → Prop where
  | required {name : String} (isName : IsName name) : IsReference (.reference name none)
  | optional {name default : String} (isName : IsName name) (unclosed : '\x7d' ∉ default.toList) :
      IsReference (.reference name (some default))

variable {part other : TemplatePart} {name : String} {default : Option String}
  {rest more : List Char}

theorem written_ne_nil (part : TemplatePart) : part.written ≠ [] := by
  cases part <;> exact List.cons_ne_nil _ _

theorem IsName.not_mem (isName : IsName name) {c : Char}
    (special : c.isAlphanum = false ∧ c ≠ '_') : c ∉ name.toList := by
  intro member
  rcases isName.plain c member with letter | underscore
  · rw [special.1] at letter
    contradiction
  · exact special.2 underscore

theorem IsReference.not_mem_inside (isReference : (reference name default).IsReference) :
    '\x7d' ∉ inside name default := by
  cases isReference with
  | required isName => exact isName.not_mem (by decide)
  | optional isName unclosed =>
      have notInName : '\x7d' ∉ name.toList := isName.not_mem (by decide)
      simp [inside, notInName, unclosed]

/-- What stands between the braces of a reference is read as this reference. -/
theorem IsReference.reference_inside (isReference : (reference name default).IsReference) :
    Template.reference (inside name default) = reference name default := by
  cases isReference with
  | required isName =>
      have notInName : ':' ∉ name.toList := isName.not_mem (by decide)
      have uncut : Text.cut? [':', '-'] name.toList = none := by
        rw [← Option.not_isSome_iff_eq_none, Text.isSome_cut?_iff]
        exact fun found => notInName (found.subset List.mem_cons_self)
      rw [inside, Template.reference, uncut, String.ofList_toList]
  | @optional _ default isName unclosed =>
      have cut := Text.cut?_append (isName.not_mem (c := ':') (by decide)) ['-'] default.toList
      obtain ⟨first, letters, spelled⟩ := List.exists_cons_of_ne_nil isName.nonempty
      change Template.reference (name.toList ++ ':' :: (['-'] ++ default.toList)) = _
      rw [Template.reference, cut, spelled]
      change reference (String.ofList (first :: letters)) (some (String.ofList default.toList)) = _
      rw [← spelled, String.ofList_toList, String.ofList_toList]

theorem IsReference.cutAt?_written (isReference : (reference name default).IsReference)
    (rest : List Char) :
    Text.cutAt? (· == '\x7d') (inside name default ++ '\x7d' :: rest) =
      some (inside name default, rest) :=
  Text.cutAt?_eq_some_iff.2 ⟨rfl, isReference.not_mem_inside⟩

theorem IsReference.eq_of_written (isReference : part.IsReference) (isOther : other.IsReference)
    (same : part.written ++ rest = other.written ++ more) : part = other ∧ rest = more := by
  cases part with
  | character c => contradiction
  | reference name default =>
      cases other with
      | character c => contradiction
      | reference otherName otherDefault =>
          have sameInside : inside name default ++ '\x7d' :: rest =
              inside otherName otherDefault ++ '\x7d' :: more := by
            simpa [written] using same
          have cut := isReference.cutAt?_written rest
          rw [sameInside, isOther.cutAt?_written more] at cut
          obtain ⟨insides, rests⟩ := Prod.mk.inj (Option.some.inj cut)
          refine ⟨?_, rests.symm⟩
          rw [← isReference.reference_inside, ← insides, isOther.reference_inside]

end TemplatePart

namespace Template

open TemplatePart

variable {text rest : List Char} {template other : Template} {part : TemplatePart} {c : Char}

/-- A reference stands at the start of the text. -/
def BeginsReference (text : List Char) : Prop :=
  ∃ (part : TemplatePart) (rest : List Char), part.IsReference ∧ text = part.written ++ rest

theorem BeginsReference.exists_eq (begins : BeginsReference text) :
    ∃ more, text = '$' :: '{' :: more := by
  obtain ⟨part, rest, isReference, rfl⟩ := begins
  cases part with
  | character c => contradiction
  | reference name default => exact ⟨_, rfl⟩

/-- What a text means if nothing but braces makes a reference: all other characters stand for
themselves. -/
inductive Means : List Char → Template → Prop where
  | nil : Means [] []
  | reference {part : TemplatePart} {rest : List Char} {template : Template}
      (isReference : part.IsReference) (means : Means rest template) :
      Means (part.written ++ rest) (part :: template)
  | character {c : Char} {rest : List Char} {template : Template}
      (plain : ¬ BeginsReference (c :: rest)) (means : Means rest template) :
      Means (c :: rest) (.character c :: template)

theorem Means.flatMap_written (means : Means text template) : template.flatMap written = text := by
  induction means with
  | nil => rfl
  | reference _ _ inductionHypothesis => rw [List.flatMap_cons, inductionHypothesis]
  | character _ _ inductionHypothesis =>
      rw [List.flatMap_cons, inductionHypothesis]
      rfl

theorem eq_nil_of_means_nil (means : Means [] template) : template = [] := by
  generalize noText : [] = text at means
  cases means with
  | nil => rfl
  | reference => simp [written_ne_nil] at noText
  | character => contradiction

theorem exists_of_means_written (isReference : part.IsReference)
    (means : Means (part.written ++ rest) template) :
    ∃ others, template = part :: others ∧ Means rest others := by
  generalize isText : part.written ++ rest = text at means
  cases means with
  | nil => simp [written_ne_nil] at isText
  | reference isOther meansRest =>
      obtain ⟨rfl, rfl⟩ := isReference.eq_of_written isOther isText
      exact ⟨_, rfl, meansRest⟩
  | character plain _ => exact absurd ⟨part, rest, isReference, isText.symm⟩ plain

theorem exists_of_means_cons (plain : ¬ BeginsReference (c :: rest))
    (means : Means (c :: rest) template) :
    ∃ others, template = .character c :: others ∧ Means rest others := by
  generalize isText : c :: rest = text at means
  cases means with
  | nil => contradiction
  | reference isReference _ => exact absurd ⟨_, _, isReference, isText⟩ plain
  | character _ meansRest =>
      cases isText
      exact ⟨_, rfl, meansRest⟩

/-- A text has one meaning. -/
theorem Means.eq_of_means (means : Means text template) (isOther : Means text other) :
    other = template := by
  induction means generalizing other with
  | nil => exact eq_nil_of_means_nil isOther
  | reference isReference _ inductionHypothesis =>
      obtain ⟨others, rfl, meansRest⟩ := exists_of_means_written isReference isOther
      rw [inductionHypothesis meansRest]
  | character plain _ inductionHypothesis =>
      obtain ⟨others, rfl, meansRest⟩ := exists_of_means_cons plain isOther
      rw [inductionHypothesis meansRest]

theorem exists_means (text : List Char) : ∃ template, Means text template := by
  induction sized : text.length using Nat.strong_induction_on generalizing text with
  | _ size inductionHypothesis =>
      by_cases begins : BeginsReference text
      · obtain ⟨part, rest, isReference, rfl⟩ := begins
        have shorter : rest.length < size := by
          have consumed := List.length_pos_iff.2 part.written_ne_nil
          rw [List.length_append] at sized
          omega
        obtain ⟨template, means⟩ := inductionHypothesis _ shorter rest rfl
        exact ⟨part :: template, .reference isReference means⟩
      · cases text with
        | nil => exact ⟨[], .nil⟩
        | cons c rest =>
            have shorter : rest.length < size := by
              rw [List.length_cons] at sized
              omega
            obtain ⟨template, means⟩ := inductionHypothesis _ shorter rest rfl
            exact ⟨.character c :: template, .character begins means⟩

section Reading

theorem read_of_ne (different : c ≠ '$') (rest : List Char) :
    read (c :: rest) = .character c :: read rest := by
  rw [read.eq_def]
  split
  · rename_i same
    exact absurd (List.cons.inj same).1 different
  · rename_i same
    exact absurd (List.cons.inj same).1 different
  · rename_i same
    exact absurd (List.cons.inj same).1 different
  · rename_i same
    cases same
    rfl
  · contradiction

theorem read_closed {inside : List Char} (unclosed : '\x7d' ∉ inside) (after : List Char) :
    read ('$' :: '\x7b' :: (inside ++ '\x7d' :: after)) =
      Template.reference inside :: read after := by
  have cut : Text.cutAt? (· == '\x7d') (inside ++ '\x7d' :: after) = some (inside, after) :=
    Text.cutAt?_eq_some_iff.2 ⟨rfl, unclosed⟩
  rw [read]
  split
  · rename_i found
    rw [cut] at found
    cases found
    rfl
  · rename_i found
    rw [cut] at found
    contradiction

theorem read_opened (unclosed : '\x7d' ∉ rest) :
    read ('$' :: '\x7b' :: rest) = .character '$' :: read ('\x7b' :: rest) := by
  have uncut := Text.cutAt?_eq_none_iff.2 unclosed
  rw [read, read_of_ne (by decide)]
  split
  · rename_i found
    rw [uncut] at found
    contradiction
  · rfl

theorem read_doubled (rest : List Char) :
    read ('$' :: '$' :: rest) = .character '$' :: read rest := by
  rw [read]

theorem read_bare (notOpened : ∀ more, rest ≠ '\x7b' :: more)
    (notDoubled : ∀ more, rest ≠ '$' :: more) :
    read ('$' :: rest) =
      if (rest.takeWhile isNameChar).isEmpty then .character '$' :: read rest
      else .reference (String.ofList (rest.takeWhile isNameChar)) none ::
        read (rest.dropWhile isNameChar) := by
  rw [read]
  · exact notOpened
  · exact notDoubled

theorem read_written (isReference : part.IsReference) (rest : List Char) :
    read (part.written ++ rest) = part :: read rest := by
  cases part with
  | character c => contradiction
  | reference name default =>
      have isWritten : (TemplatePart.reference name default).written ++ rest =
          '$' :: '\x7b' :: (inside name default ++ '\x7d' :: rest) := by
        simp [written]
      rw [isWritten, read_closed isReference.not_mem_inside, isReference.reference_inside]

/-- Text before which a dollar sign is not taken for the start of anything. -/
inductive LeavesDollar : List Char → Prop where
  | nothing : LeavesDollar []
  | unclosed {more : List Char} (unclosed : '\x7d' ∉ more) : LeavesDollar ('\x7b' :: more)
  | character {c : Char} {more : List Char} (notBrace : c ≠ '\x7b') (notDollar : c ≠ '$')
      (notName : isNameChar c = false) : LeavesDollar (c :: more)

theorem read_dollar (leaves : LeavesDollar rest) :
    read ('$' :: rest) = .character '$' :: read rest := by
  cases leaves with
  | nothing => exact read_bare nofun nofun
  | unclosed unclosed => exact read_opened unclosed
  | @character c more notBrace notDollar notName =>
      have noName : (c :: more).takeWhile isNameChar = [] :=
        List.takeWhile_cons_of_neg (by simp [notName])
      rw [read_bare (by simp [notBrace]) (by simp [notDollar]), noName]
      rfl

theorem reference_ne_character (inside : List Char) : Template.reference inside ≠ .character c := by
  unfold Template.reference
  split <;> exact nofun

/-- Where a dollar sign is read as itself, nothing follows that it could begin, but for another one
that it takes the place of. -/
theorem leavesDollar_or_doubled (reads : read ('$' :: rest) = .character '$' :: template) :
    LeavesDollar rest ∨ ∃ more, rest = '$' :: more ∧ read more = template := by
  cases rest with
  | nil => exact Or.inl .nothing
  | cons c more =>
      by_cases isDollar : c = '$'
      · subst isDollar
        rw [read_doubled] at reads
        exact Or.inr ⟨more, rfl, (List.cons.inj reads).2⟩
      · apply Or.inl
        by_cases isBrace : c = '\x7b'
        · subst isBrace
          refine .unclosed fun closes => ?_
          obtain ⟨inside, after, rfl, unclosed⟩ := List.eq_append_cons_of_mem closes
          rw [read_closed unclosed] at reads
          exact reference_ne_character inside (List.cons.inj reads).1
        · refine .character isBrace isDollar (Bool.eq_false_iff.2 fun starts => ?_)
          rw [read_bare (by simp [isBrace]) (by simp [isDollar]),
            List.takeWhile_cons_of_pos starts] at reads
          cases reads

end Reading

/-- A part takes the place of at least so many dollar signs. -/
def partDollars : TemplatePart → Nat
  | .character c => if c = '$' then 1 else 0
  | .reference _ none => 1
  | .reference _ (some default) => 1 + default.toList.count '$'

def dollars : Template → Nat
  | [] => 0
  | part :: rest => partDollars part + dollars rest

theorem partDollars_reference_le (inside : List Char) :
    partDollars (Template.reference inside) ≤ 1 + inside.count '$' := by
  unfold Template.reference
  split
  · rename_i found
    rw [Text.eq_append_of_cut? found, List.count_append, partDollars, String.toList_ofList]
    omega
  · rw [partDollars]
    omega

theorem count_written (isReference : part.IsReference) :
    part.written.count '$' = partDollars part := by
  cases isReference with
  | required isName =>
      have notInName := List.count_eq_zero.2 (isName.not_mem (c := '$') (by decide))
      simp [written, inside, partDollars, notInName]
  | optional isName _ =>
      have notInName := List.count_eq_zero.2 (isName.not_mem (c := '$') (by decide))
      simp [written, inside, partDollars, notInName, Nat.add_comm]

theorem Means.count_eq_dollars (means : Means text template) :
    text.count '$' = template.dollars := by
  induction means with
  | nil => rfl
  | reference isReference _ inductionHypothesis =>
      rw [List.count_append, inductionHypothesis, count_written isReference, dollars]
  | character _ _ inductionHypothesis =>
      rw [List.count_cons, inductionHypothesis, dollars, partDollars, Nat.add_comm]
      simp

/-- Reading may take two dollar signs for one, but makes none up. -/
theorem dollars_read_le (text : List Char) : (read text).dollars ≤ text.count '$' := by
  -- Every case takes as many dollar signs from the text as its part counts for, or more.
  fun_induction read text with
  | case1 rest inside after cut inductionHypothesis =>
      obtain ⟨isRest, _⟩ := Text.cutAt?_eq_some_iff.1 cut
      have bound := partDollars_reference_le inside
      rw [isRest, dollars]
      simp only [List.count_cons, List.count_append]
      simp
      omega
  | case2 rest uncut inductionHypothesis =>
      simp [dollars, partDollars]
      omega
  | case3 rest inductionHypothesis =>
      simp [dollars, partDollars]
      omega
  | case4 rest notOpened notDoubled name noName inductionHypothesis =>
      simp [dollars, partDollars]
      omega
  | case5 rest notOpened notDoubled name isName inductionHypothesis =>
      have fewer := (List.dropWhile_sublist (l := rest) isNameChar).count_le '$'
      simp [dollars, partDollars]
      omega
  | case6 c rest _ _ notDollar inductionHypothesis =>
      simpa [dollars, partDollars, show c ≠ '$' from notDollar] using inductionHypothesis
  | case7 => exact Nat.le_refl 0

/-- Every dollar sign that is copied stands where nothing follows that it could begin. -/
def KeepsDollars (template : Template) : Prop :=
  ∀ before after, template = before ++ .character '$' :: after →
    LeavesDollar (after.flatMap written)

theorem keepsDollars_nil : KeepsDollars [] := by
  intro before after split
  cases before <;> contradiction

theorem keepsDollars_cons :
    KeepsDollars (part :: template) ↔
      (part = .character '$' → LeavesDollar (template.flatMap written)) ∧
        KeepsDollars template := by
  constructor
  · intro keeps
    refine ⟨?_, ?_⟩
    · rintro rfl
      exact keeps [] template rfl
    · intro before after split
      exact keeps (part :: before) after (congrArg (part :: ·) split)
  · rintro ⟨leaves, keeps⟩ before after split
    cases before with
    | nil =>
        cases split
        exact leaves rfl
    | cons first before =>
        cases split
        exact keeps before after rfl

/-- A text is read as what it means exactly where no copied dollar sign could begin anything. -/
theorem read_eq_iff (means : Means text template) :
    read text = template ↔ template.KeepsDollars := by
  induction means with
  | nil => exact iff_of_true (by rw [read]) keepsDollars_nil
  | @reference part rest template isReference _ inductionHypothesis =>
      have notDollar : part ≠ .character '$' := by
        rintro rfl
        contradiction
      rw [read_written isReference, keepsDollars_cons, ← inductionHypothesis, List.cons.injEq]
      simp [notDollar]
  | @character c rest template plain means inductionHypothesis =>
      rw [keepsDollars_cons, means.flatMap_written, ← inductionHypothesis]
      by_cases isDollar : c = '$'
      · subst isDollar
        constructor
        · intro reads
          rcases leavesDollar_or_doubled reads with leaves | ⟨more, rfl, readsMore⟩
          · rw [read_dollar leaves] at reads
            exact ⟨fun _ => leaves, (List.cons.inj reads).2⟩
          · -- The rest of the template stands for one dollar sign more than its reading can.
            have enough := means.count_eq_dollars
            have tooFew := dollars_read_le more
            rw [readsMore, ← enough, List.count_cons_self] at tooFew
            omega
        · rintro ⟨leaves, reads⟩
          rw [read_dollar (leaves rfl), reads]
      · rw [read_of_ne isDollar]
        simp [isDollar]

/-- Without an opening `$` and brace, every character stands for itself. -/
theorem Means.eq_map (means : Means text template) (noneOpens : ¬ ['$', '\x7b'] <:+: text) :
    template = text.map .character := by
  induction means with
  | nil => rfl
  | @reference part rest _ isReference _ _ =>
      obtain ⟨more, starts⟩ := BeginsReference.exists_eq ⟨part, rest, isReference, rfl⟩
      rw [starts] at noneOpens
      exact absurd (List.prefix_append ['$', '\x7b'] more).isInfix noneOpens
  | @character c rest _ _ _ inductionHypothesis =>
      have restOpensNone : ¬ ['$', '\x7b'] <:+: rest :=
        fun opens => noneOpens (opens.trans (List.suffix_cons c rest).isInfix)
      rw [inductionHypothesis restOpensNone, List.map_cons]

end Template

end Listings

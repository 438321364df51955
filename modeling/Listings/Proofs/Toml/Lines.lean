/-
This file shows which statements are read from lines that are written plainly.
-/

import Listings.Proofs.Text.Reading
import Listings.Toml.Reader
import Mathlib.Algebra.BigOperators.Group.List.Basic

namespace Listings.Toml

open Text Reading

/-- A name that stands as a key without quotes. -/
structure IsBareKey (name : List Char) : Prop where
  nonempty : name ≠ []
  isBare : ∀ c ∈ name, isBareKeyChar c = true

/-- A text that stands between double quotes as it is. -/
def IsPlain (text : List Char) : Prop :=
  ∀ c ∈ text, c ≠ '"' ∧ c ≠ '\\' ∧ isControl c = false

variable {name text rest : List Char}

/-- No blank, comment or end of a line stands here. -/
def NoGap (text : List Char) : Prop :=
  ∀ c ∈ text.head?, isSpace c = false ∧ c ≠ '#' ∧ c ≠ '\n' ∧ c ≠ '\r'

theorem noGap_cons {c : Char} (visible : isSpace c = false ∧ c ≠ '#' ∧ c ≠ '\n' ∧ c ≠ '\r')
    (rest : List Char) : NoGap (c :: rest) := by
  rintro _ ⟨⟩
  exact visible

theorem IsBareKey.head_ne (isKey : IsBareKey name) {c : Char} (notBare : isBareKeyChar c = false)
    (rest : List Char) : (name ++ rest).head? ≠ some c := by
  obtain ⟨first, more, rfl⟩ := List.exists_cons_of_ne_nil isKey.nonempty
  have bare : isBareKeyChar first = true := isKey.isBare first List.mem_cons_self
  rintro same
  rw [Option.some.inj same, notBare] at bare
  exact Bool.false_ne_true bare

theorem IsBareKey.noGap (isKey : IsBareKey name) (rest : List Char) : NoGap (name ++ rest) := by
  intro c isHead
  have different : ∀ other, isBareKeyChar other = false → c ≠ other := by
    rintro other notBare rfl
    exact isKey.head_ne notBare rest isHead
  refine ⟨?_, different '#' (by decide), different '\n' (by decide), different '\r' (by decide)⟩
  rw [isSpace, beq_eq_false_iff_ne.2 (different ' ' (by decide)),
    beq_eq_false_iff_ne.2 (different '\t' (by decide)), Bool.or_false]

theorem run_spaces (text : List Char) : spaces.run text = some ((), text.dropWhile isSpace) := rfl

theorem run_spaces_of_head (unspaced : ∀ c ∈ text.head?, isSpace c = false) :
    spaces.run text = some ((), text) := by
  rw [run_spaces]
  cases text with
  | nil => rfl
  | cons c more => rw [List.dropWhile_cons_of_neg (by simp [unspaced c rfl])]

section Gaps

variable (noGap : NoGap text)

include noGap

theorem NoGap.run_spaces : spaces.run text = some ((), text) :=
  run_spaces_of_head fun c isHead => (noGap c isHead).1

theorem NoGap.head_ne {c : Char} (isGap : isSpace c = true ∨ c = '#' ∨ c = '\n' ∨ c = '\r') :
    text.head? ≠ some c := by
  intro isHead
  obtain ⟨notSpace, notComment, notEnd, notReturn⟩ := noGap c isHead
  rcases isGap with space | same | same | same
  · rw [notSpace] at space
    exact Bool.false_ne_true space
  · exact notComment same
  · exact notEnd same
  · exact notReturn same

theorem NoGap.run_lineEnd : lineEnd.run text = some (false, text) := by
  have notEnd := noGap.head_ne (c := '\n') (by decide)
  have notReturn := noGap.head_ne (c := '\r') (by decide)
  simp only [lineEnd, run_bind_eq, run_accept_of_head_ne notEnd, Option.bind_some,
    Bool.false_eq_true, if_false, run_accept_of_head_ne notReturn]

theorem NoGap.run_gaps : gaps.run text = some ((), text) := by
  have uncommented : (text.head? == some '#') = false :=
    beq_eq_false_iff_ne.2 (noGap.head_ne (by decide))
  have notCommented : gap.commentBeforeEnd.run text = some ((), text) := by
    simp only [gap.commentBeforeEnd, run_bind_eq, run_peek, Option.bind_some, uncommented,
      Bool.false_eq_true, if_false]
    rfl
  simp only [gaps, gap, run_bind_eq, run_rest, Option.bind_some, noGap.run_spaces, notCommented,
    noGap.run_lineEnd, Bool.false_eq_true, if_false]
  rfl

end Gaps

theorem run_simpleKey (isKey : IsBareKey name)
    (ends : ∀ c ∈ rest.head?, isBareKeyChar c = false) :
    simpleKey.run (name ++ rest) = some (String.ofList name, rest) := by
  have nonempty : name.isEmpty = false := by simp [isKey.nonempty]
  have unquoted := isKey.head_ne (c := '"') (by decide) rest
  have notLiteral := isKey.head_ne (c := '\'') (by decide) rest
  simp only [simpleKey, run_bind_eq, run_rest, Option.bind_some, run_accept_of_head_ne unquoted,
    run_accept_of_head_ne notLiteral, Bool.false_eq_true, if_false,
    run_takeWhile_append isKey.isBare ends, nonempty]
  rfl

theorem run_key (isKey : IsBareKey name) (ends : ∀ c ∈ rest.head?, isBareKeyChar c = false)
    (undotted : (rest.dropWhile isSpace).head? ≠ some '.') :
    key.run (name ++ rest) = some ([String.ofList name], rest.dropWhile isSpace) := by
  rw [key, run_bind_eq, run_rest, Option.bind_some, keyPath]
  simp only [run_bind_eq, (isKey.noGap rest).run_spaces, Option.bind_some,
    run_simpleKey isKey ends, run_spaces, run_accept_of_head_ne undotted]
  rfl

theorem run_basicText (plain : IsPlain text) {fuel : Nat} (enough : text.length < fuel)
    (rest : List Char) : (basicText fuel).run (text ++ '"' :: rest) = some (text, rest) := by
  induction text generalizing fuel with
  | nil =>
      obtain ⟨fuel, rfl⟩ := Nat.exists_eq_add_of_lt enough
      rfl
  | cons c text inductionHypothesis =>
      obtain ⟨fuel, rfl⟩ := Nat.exists_eq_add_one_of_ne_zero (Nat.ne_zero_of_lt enough)
      obtain ⟨⟨notQuote, notBackslash, notControl⟩, plainRest⟩ := List.forall_mem_cons.1 plain
      have continues := inductionHypothesis plainRest (Nat.lt_of_succ_lt_succ enough)
      simp only [basicText, run_bind_eq, List.cons_append, run_next, Option.bind_some,
        beq_eq_false_iff_ne.2 notQuote, beq_eq_false_iff_ne.2 notBackslash, notControl,
        Bool.false_eq_true, if_false, continues]
      rfl

def quoted (text : List Char) : List Char := '"' :: (text ++ ['"'])

/-- One quote more would make the start of a text in three quotes out of an empty one. -/
theorem run_quotedText (plain : IsPlain text) (unquoted : rest.head? ≠ some '"') :
    quotedText.run (quoted text ++ rest) = some (text, rest) := by
  have isQuoted : quoted text ++ rest = '"' :: (text ++ '"' :: rest) := by simp [quoted]
  have long : "\"\"\"".toList = ['"', '"', '"'] := rfl
  have notLong : ¬ ['"', '"', '"'] <+: '"' :: (text ++ '"' :: rest) := by
    rintro ⟨after, same⟩
    cases text with
    | nil =>
        cases same
        exact unquoted rfl
    | cons c more =>
        have isQuote : '"' = c := (List.cons.inj (List.cons.inj same).2).1
        exact (plain c List.mem_cons_self).1 isQuote.symm
  have notLiteral : ¬ "'''".toList <+: '"' :: (text ++ '"' :: rest) := by
    rintro ⟨after, same⟩
    cases same
  have enough : text.length < ('"' :: (text ++ '"' :: rest)).length + 1 := by
    rw [List.length_cons, List.length_append]
    omega
  have reads := run_basicText plain enough rest
  simp only [isQuoted, quotedText, run_bind_eq, run_rest, Option.bind_some, long,
    run_accept_of_not_prefix notLong, run_accept_of_not_prefix notLiteral,
    Bool.false_eq_true, if_false]
  exact reads

theorem run_value_quoted (plain : IsPlain text) (unquoted : rest.head? ≠ some '"') (fuel : Nat) :
    (value (fuel + 1)).run (quoted text ++ rest) = some (.text (String.ofList text), rest) := by
  have reads := run_quotedText plain unquoted
  have isQuoted : quoted text ++ rest = '"' :: (text ++ '"' :: rest) := by simp [quoted]
  rw [isQuoted] at reads ⊢
  simp only [value, run_bind_eq, run_peek, Option.bind_some, List.head?_cons, reads]
  rfl

theorem length_le_length_flatMap {α β : Type} {write : α → List β}
    (someOf : ∀ item, write item ≠ []) (items : List α) :
    items.length ≤ (items.flatMap write).length := by
  have lengths := List.length_le_sum_of_one_le (items.map fun item => (write item).length)
    (List.forall_mem_map.2 fun item _ => List.length_pos_iff.2 (someOf item))
  rw [List.length_map] at lengths
  rw [List.length_flatMap]
  exact lengths

/-- The rest of an array of texts. Every one of them has a comma behind it. -/
def quotedItems (texts : List (List Char)) : List Char :=
  texts.flatMap (fun text => quoted text ++ [',']) ++ [']']

theorem run_items {texts : List (List Char)} (plain : ∀ text ∈ texts, IsPlain text) {fuel : Nat}
    (enough : texts.length < fuel) (rest : List Char) :
    (items fuel).run (quotedItems texts ++ rest) =
      some (texts.map fun text => .text (String.ofList text), rest) := by
  induction texts generalizing fuel with
  | nil =>
      obtain ⟨fuel, rfl⟩ := Nat.exists_eq_add_one_of_ne_zero (Nat.ne_zero_of_lt enough)
      have noGap : NoGap (']' :: rest) := noGap_cons (by decide) rest
      simp only [items, run_bind_eq, quotedItems, List.flatMap_nil, List.nil_append,
        List.singleton_append, noGap.run_gaps, Option.bind_some, run_accept_cons, if_true]
      rfl
  | cons text texts inductionHypothesis =>
      obtain ⟨fuel, rfl⟩ := Nat.exists_eq_add_one_of_ne_zero (Nat.ne_zero_of_lt enough)
      obtain ⟨plainText, plainTexts⟩ := List.forall_mem_cons.1 plain
      have continues := inductionHypothesis plainTexts (Nat.lt_of_succ_lt_succ enough)
      -- An item and its value are read with the same fuel, so some must be left for the value.
      obtain ⟨less, rfl⟩ := Nat.exists_eq_add_one_of_ne_zero
        (Nat.ne_zero_of_lt (Nat.lt_of_succ_lt_succ enough))
      have unquoted : (',' :: (quotedItems texts ++ rest)).head? ≠ some '"' := by simp
      have reads := run_value_quoted plainText unquoted less
      have isQuoted : quotedItems (text :: texts) ++ rest =
          quoted text ++ ',' :: (quotedItems texts ++ rest) := by
        simp [quotedItems]
      have noGap : NoGap (quoted text ++ ',' :: (quotedItems texts ++ rest)) :=
        noGap_cons (by decide) _
      have noGapBehind : NoGap (',' :: (quotedItems texts ++ rest)) := noGap_cons (by decide) _
      have opens : (quoted text ++ ',' :: (quotedItems texts ++ rest)).head? ≠ some ']' := by
        simp [quoted]
      rw [items]
      simp only [run_bind_eq, isQuoted, noGap.run_gaps, Option.bind_some,
        run_accept_of_head_ne opens, Bool.false_eq_true, if_false, reads, noGapBehind.run_gaps,
        run_accept_cons, if_true, continues]
      rfl

/-- A value is written so that it can be the rest of a line. -/
structure IsContent (content : List Char) (written : Value) : Prop where
  noGap : ∀ rest, NoGap (content ++ '\n' :: rest)
  reads : ∀ fuel rest, content.length < fuel →
    (value fuel).run (content ++ '\n' :: rest) = some (written, '\n' :: rest)

theorem isContent_quoted (plain : IsPlain text) :
    IsContent (quoted text) (.text (String.ofList text)) where
  noGap rest := noGap_cons (by decide) _
  reads fuel rest enough := by
    obtain ⟨fuel, rfl⟩ := Nat.exists_eq_add_one_of_ne_zero (Nat.ne_zero_of_lt enough)
    exact run_value_quoted plain (by simp) fuel

theorem isContent_quotedItems {texts : List (List Char)} (plain : ∀ text ∈ texts, IsPlain text) :
    IsContent ('[' :: quotedItems texts)
      (.array (texts.map fun text => .text (String.ofList text))) where
  noGap rest := noGap_cons (by decide) _
  reads fuel rest enough := by
    obtain ⟨fuel, rfl⟩ := Nat.exists_eq_add_one_of_ne_zero (Nat.ne_zero_of_lt enough)
    have shorter : texts.length ≤ (texts.flatMap fun text => quoted text ++ [',']).length :=
      length_le_length_flatMap (by simp) texts
    rw [List.length_cons, quotedItems, List.length_append] at enough
    have enoughItems : texts.length < fuel := by omega
    have reads := run_items plain enoughItems ('\n' :: rest)
    simp only [value, run_bind_eq, run_peek, List.cons_append, List.head?_cons, Option.bind_some,
      run_next, reads]
    rfl

/-- How a truth value is written. -/
def truth (isOn : Bool) : List Char := if isOn then "true".toList else "false".toList

theorem isContent_truth (isOn : Bool) : IsContent (truth isOn) (.boolean isOn) where
  noGap rest := by
    cases isOn with
    | true => exact noGap_cons (by decide) _
    | false => exact noGap_cons (by decide) _
  reads fuel rest enough := by
    obtain ⟨fuel, rfl⟩ := Nat.exists_eq_add_one_of_ne_zero (Nat.ne_zero_of_lt enough)
    have isScalar : (truth isOn).all isScalarChar = true := by
      cases isOn <;> rfl
    have isTruth : scalar? (truth isOn) = some (.boolean isOn) := by
      cases isOn <;> rfl
    have ends : ∀ c ∈ ('\n' :: rest).head?, isScalarChar c = false := by
      rintro _ ⟨⟩
      decide
    have taken := run_takeWhile_append (List.all_eq_true.1 isScalar) ends
    have reads : scalar.run (truth isOn ++ '\n' :: rest) = some (.boolean isOn, '\n' :: rest) := by
      simp only [scalar, run_bind_eq, taken, Option.bind_some, run_rest, scalar.fromText, isTruth]
      rfl
    cases isOn with
    | true => exact reads
    | false => exact reads

/-- A statement is all that a line holds. -/
structure IsLine (line : List Char) (found : Statement) : Prop where
  noGap : ∀ rest, NoGap (line ++ '\n' :: rest)
  reads : ∀ rest, statement.run (line ++ '\n' :: rest) = some (found, '\n' :: rest)

theorem isLine_header (isKey : IsBareKey name) :
    IsLine ('[' :: (name ++ [']'])) (.openTable [String.ofList name]) where
  noGap rest := noGap_cons (by decide) _
  reads rest := by
    have isHeader : '[' :: (name ++ [']']) ++ '\n' :: rest =
        '[' :: (name ++ ']' :: '\n' :: rest) := by
      simp
    have single : ¬ ['[', '['] <+: '[' :: (name ++ ']' :: '\n' :: rest) := by
      rintro ⟨after, same⟩
      have starts := congrArg List.head? (List.cons.inj same).2
      exact isKey.head_ne (by decide) _ starts.symm
    have unspaced : (']' :: '\n' :: rest).dropWhile isSpace = ']' :: '\n' :: rest := rfl
    have ends : ∀ c ∈ (']' :: '\n' :: rest).head?, isBareKeyChar c = false := by
      rintro _ ⟨⟩
      decide
    have named := run_key isKey ends (by rw [unspaced]; simp)
    rw [isHeader]
    simp only [statement, run_bind_eq, run_accept_of_not_prefix single, Option.bind_some,
      Bool.false_eq_true, if_false, run_accept_cons, if_true, named, unspaced, run_expect_cons]
    rfl

theorem isLine_assignment (isKey : IsBareKey name) {content : List Char} {written : Value}
    (isContent : IsContent content written) :
    IsLine (name ++ " = ".toList ++ content) (.assign [String.ofList name] written) where
  noGap rest := by
    rw [List.append_assoc, List.append_assoc]
    exact isKey.noGap _
  reads rest := by
    have isAssignment : name ++ " = ".toList ++ content ++ '\n' :: rest =
        name ++ ' ' :: '=' :: ' ' :: (content ++ '\n' :: rest) := by
      simp
    have unopened := isKey.head_ne (c := '[') (by decide)
      (' ' :: '=' :: ' ' :: (content ++ '\n' :: rest))
    have unspaced : (' ' :: '=' :: ' ' :: (content ++ '\n' :: rest)).dropWhile isSpace =
        '=' :: ' ' :: (content ++ '\n' :: rest) := rfl
    have ends : ∀ c ∈ (' ' :: '=' :: ' ' :: (content ++ '\n' :: rest)).head?,
        isBareKeyChar c = false := by
      rintro _ ⟨⟩
      decide
    have named := run_key isKey ends (by rw [unspaced]; simp)
    have spaced : spaces.run (' ' :: (content ++ '\n' :: rest)) =
        some ((), content ++ '\n' :: rest) :=
      (isContent.noGap rest).run_spaces
    have enough : content.length < (content ++ '\n' :: rest).length + 1 := by
      rw [List.length_append]
      omega
    have reads := isContent.reads _ rest enough
    rw [isAssignment]
    simp only [statement, run_bind_eq, run_accept_of_head_ne unopened, Option.bind_some,
      Bool.false_eq_true, if_false, named, unspaced, run_expect_cons, spaced, run_rest, reads]
    rfl

theorem run_statements_cons {line : List Char} {found : Statement} (isLine : IsLine line found)
    (fuel : Nat) (more : List Char) :
    (statements (fuel + 1)).run (line ++ '\n' :: more) =
      ((statements fuel).run more).map fun others => (found :: others.1, others.2) := by
  have noGap := isLine.noGap more
  -- A line that starts with a comment or ends at once would hold no statement.
  rw [statements]
  simp only [run_bind_eq, noGap.run_spaces, Option.bind_some, run_peek]
  split
  · rename_i empty
    simp at empty
  · rename_i isComment
    exact absurd isComment (noGap.head_ne (by decide))
  · rename_i isEnd
    exact absurd isEnd (noGap.head_ne (by decide))
  · rename_i isReturn
    exact absurd isReturn (noGap.head_ne (by decide))
  · have uncommented : comment.run ('\n' :: more) = some ((), '\n' :: more) := rfl
    have unspaced : spaces.run ('\n' :: more) = some ((), '\n' :: more) := rfl
    have ends : lineEnd.run ('\n' :: more) = some (true, more) := rfl
    simp only [run_bind_eq, isLine.reads, Option.bind_some, StateT.run_pure, Option.pure_def,
      unspaced, uncommented, ends, if_true]
    cases (statements fuel).run more <;> rfl

/-- A document of lines that each hold a statement. -/
def ofLines (lines : List (List Char)) : List Char := lines.flatMap fun line => line ++ ['\n']

theorem run_statements {lines : List (List Char)} {found : List Statement}
    (areLines : List.Forall₂ IsLine lines found) {fuel : Nat} (enough : lines.length < fuel) :
    (statements fuel).run (ofLines lines) = some (found, []) := by
  induction areLines generalizing fuel with
  | nil =>
      obtain ⟨fuel, rfl⟩ := Nat.exists_eq_add_one_of_ne_zero (Nat.ne_zero_of_lt enough)
      rfl
  | @cons line first lines others isLine _ inductionHypothesis =>
      obtain ⟨fuel, rfl⟩ := Nat.exists_eq_add_one_of_ne_zero (Nat.ne_zero_of_lt enough)
      have continues := inductionHypothesis (Nat.lt_of_succ_lt_succ enough)
      have cut : ofLines (line :: lines) = line ++ '\n' :: ofLines lines := by
        simp [ofLines]
      rw [cut, run_statements_cons isLine, continues]
      rfl

/-- Such a document is read as what its statements fill. -/
theorem read?_ofLines {lines : List (List Char)} {found : List Statement}
    (areLines : List.Forall₂ IsLine lines found)
    (unmarked : (ofLines lines).head? ≠ some '\ufeff') :
    read? (String.ofList (ofLines lines)) = Entries.ofStatements? found := by
  have shorter : lines.length ≤ (ofLines lines).length :=
    length_le_length_flatMap (by simp) lines
  have enough : lines.length < (ofLines lines).length + 1 := Nat.lt_succ_of_le shorter
  have reads := run_statements areLines enough
  unfold read?
  rw [String.toList_ofList]
  split
  · rename_i marked
    rw [marked] at unmarked
    exact absurd rfl unmarked
  · dsimp only
    rw [reads]
    rfl

end Listings.Toml

/-
This file says which directives have a meaning throughout, and what is reported about the others.
-/

import Listings.Proofs.Directive.Tokens
import Listings.Proofs.LineSet.Reading

namespace Listings

open Text (IsIndex)

/-- A notice as a warning with its message and its fields. -/
def Notice.Warns (notice : Notice) (message : String) (fields : List (String × Field)) : Prop :=
  notice.level = .warn ∧ notice.message = message ∧ notice.fields = fields

namespace LineSet

/-- Nothing, an index, or two indices with one `-` between them. -/
inductive IsPart : List Char → Prop
  | empty : IsPart []
  | index {part : List Char} {line : Nat} (unbroken : '-' ∉ part) (isIndex : IsIndex part line) :
      IsPart part
  | range {low high : List Char} {a b : Nat} (lowUnbroken : '-' ∉ low) (highUnbroken : '-' ∉ high)
      (isLow : IsIndex low a) (isHigh : IsIndex high b) : IsPart (low ++ '-' :: high)

theorem isPart_iff {part : List Char} : IsPart part ↔ part = [] ∨ ∃ line, Names part line := by
  constructor
  · intro isPart
    cases isPart with
    | empty => exact .inl rfl
    | index unbroken isIndex => exact .inr ⟨_, .index unbroken isIndex⟩
    | @range low high a b lowUnbroken highUnbroken isLow isHigh =>
        refine .inr ⟨a, .range lowUnbroken highUnbroken isLow isHigh ?_ ?_⟩
        · exact Nat.min_le_left a b
        · exact Nat.le_max_left a b
  · rintro (rfl | ⟨line, names⟩)
    · exact .empty
    · cases names with
      | index unbroken isIndex => exact .index unbroken isIndex
      | range lowUnbroken highUnbroken isLow isHigh _ _ =>
          exact .range lowUnbroken highUnbroken isLow isHigh

theorem isLeft_readPart (part : List Char) : (readPart part).isLeft = true ↔ IsPart part := by
  rw [isPart_iff]
  rcases readPart_cases part with ⟨rfl, kind⟩ | ⟨range, kind, named⟩ | ⟨nonempty, nothing, kind⟩
  · rw [kind]
    exact iff_of_true rfl (.inl rfl)
  · rw [kind]
    refine iff_of_true rfl (.inr ⟨range.first.toNat, (named _).1 ?_⟩)
    exact LineRange.contains_iff.2 ⟨Nat.le_refl _, range.ordered⟩
  · rw [kind]
    exact iff_of_false Bool.false_ne_true (not_or.2 ⟨nonempty, not_exists.2 nothing⟩)

instance (part : List Char) : Decidable (IsPart part) :=
  decidable_of_iff _ (isLeft_readPart part)

/-- What is reported about a part. -/
def partNotices (part : List Char) : List Notice :=
  if IsPart part then []
  else if '-' ∈ part then [.malformedRange (String.ofList part)]
  else [.malformedNumber (String.ofList part)]

theorem notices_insertPart (set : LineSet) (part : List Char) :
    (insertPart set part).notices = partNotices part := by
  have known := isLeft_readPart part
  unfold insertPart partNotices
  rcases readPart_cases part with ⟨rfl, kind⟩ | ⟨range, kind, _⟩ | ⟨_, _, kind⟩
  · rw [if_pos .empty]
    rfl
  · rw [kind] at known ⊢
    rw [if_pos (known.1 rfl)]
  · rw [kind] at known ⊢
    rw [if_neg (mt known.2 Bool.false_ne_true)]
    dsimp only
    split <;> rfl

theorem notices_read (value : List Char) :
    (read value).notices = (listParts value).flatMap partNotices :=
  Reported.notices_foldlM notices_insertPart _ _

theorem partNotices_eq_nil_iff {part : List Char} : partNotices part = [] ↔ IsPart part := by
  unfold partNotices
  split
  · rename_i isPart
    exact iff_of_true rfl isPart
  · rename_i noPart
    refine iff_of_false ?_ noPart
    split <;> exact List.cons_ne_nil _ _

end LineSet

namespace Directive

instance (name : String) : Decidable (IsData name) := decidable_of_iff _ isDataName_iff

/-- The settings that take a list of lines. -/
def lineKeys : List String := ["highlight", "show", "hide"]

theorem mem_lineKeys {key : String} :
    key ∈ lineKeys ↔ key = "highlight" ∨ key = "show" ∨ key = "hide" := by
  simp [lineKeys]

/-- What follows the first `=` of a token. -/
def valueOf (token : List Char) : List Char := token.drop ((keyOf token).length + 1)

/-- A token with a meaning, in all of its parts. -/
inductive IsToken : List Char → Prop
  | preserveScopes : IsToken "preserve-scopes".toList
  | flag {name : String} (data : IsData name) : IsToken name.toList
  | setting {name : String} (data : IsData name) (value : List Char) :
      IsToken (name.toList ++ '=' :: value)
  | lines {key : String} (isKey : key ∈ lineKeys) {value : List Char}
      (parts : ∀ part ∈ LineSet.listParts value, LineSet.IsPart part) :
      IsToken (key.toList ++ '=' :: value)

/-- What is reported about a token. -/
def tokenNotices (token : List Char) : List Notice :=
  let key := String.ofList (keyOf token)
  if '=' ∈ token then
    if key ∈ lineKeys then (LineSet.listParts (valueOf token)).flatMap LineSet.partNotices
    else if IsData key then []
    else [.unhandledSetting key (String.ofList (valueOf token))]
  else if token = "preserve-scopes".toList ∨ IsData key then []
  else [.unhandledToken (String.ofList token)]

theorem valueOf_append {key : List Char} (keyFree : '=' ∉ key) (value : List Char) :
    valueOf (key ++ '=' :: value) = value := by
  rw [valueOf, keyOf_append keyFree]
  simp

theorem tokenNotices_append {key : List Char} (keyFree : '=' ∉ key) (value : List Char) :
    tokenNotices (key ++ '=' :: value) =
      if String.ofList key ∈ lineKeys then (LineSet.listParts value).flatMap LineSet.partNotices
      else if IsData (String.ofList key) then []
      else [.unhandledSetting (String.ofList key) (String.ofList value)] := by
  have member : '=' ∈ key ++ '=' :: value := by simp
  rw [tokenNotices, keyOf_append keyFree, valueOf_append keyFree, if_pos member]

theorem tokenNotices_of_bare {token : List Char} (bare : '=' ∉ token) :
    tokenNotices token =
      if token = "preserve-scopes".toList ∨ IsData (String.ofList token) then []
      else [.unhandledToken (String.ofList token)] := by
  rw [tokenNotices, keyOf_of_bare bare, if_neg bare]

theorem not_isData_of_isDataName {name : String} (data : isDataName name.toList = false) :
    ¬ IsData name := by
  rw [← isDataName_iff, data]
  exact Bool.false_ne_true

/-- A setting reports what its list of lines reports, or that its key has no meaning. -/
theorem notices_apply_append (directive : Directive) {key : String} (keyFree : '=' ∉ key.toList)
    (value : List Char) :
    (apply directive (Token.ofWord (key.toList ++ '=' :: value))).notices =
      tokenNotices (key.toList ++ '=' :: value) := by
  rw [ofWord_append keyFree, tokenNotices_append keyFree, String.ofList_toList]
  simp only [String.toList_inj]
  by_cases isLineKey : key ∈ lineKeys
  · -- Once the list is read, nothing more is reported.
    have reads : (LineSet.read value).notices ++ [] =
        (LineSet.listParts value).flatMap LineSet.partNotices := by
      rw [List.append_nil, LineSet.notices_read]
    rw [if_pos isLineKey, ← reads]
    rcases mem_lineKeys.1 isLineKey with rfl | rfl | rfl <;> rfl
  · obtain ⟨noHighlight, noOthers⟩ := not_or.1 (mt mem_lineKeys.2 isLineKey)
    obtain ⟨noShow, noHide⟩ := not_or.1 noOthers
    rw [if_neg isLineKey, if_neg noHighlight, if_neg noShow, if_neg noHide]
    cases data : isDataName key.toList with
    | true =>
        rw [if_pos (isDataName_iff.1 data)]
        rfl
    | false =>
        rw [if_neg (not_isData_of_isDataName data)]
        rfl

theorem notices_apply (directive : Directive) (token : List Char) :
    (apply directive (Token.ofWord token)).notices = tokenNotices token := by
  obtain ⟨word, rfl⟩ : ∃ word : String, token = word.toList :=
    ⟨String.ofList token, String.toList_ofList.symm⟩
  rcases ofWord_cases word.toList with
    ⟨same, kind⟩ | ⟨bare, _, data, kind⟩ | ⟨bare, other, data, kind⟩ | ⟨key, value, whole, keyFree, _⟩
  · rw [kind, same, tokenNotices_of_bare (by decide), if_pos (.inl rfl)]
    rfl
  · rw [kind, tokenNotices_of_bare bare, String.ofList_toList,
      if_pos (.inr (isDataName_iff.1 data))]
    rfl
  · rw [kind, tokenNotices_of_bare bare, String.ofList_toList,
      if_neg (not_or.2 ⟨other, not_isData_of_isDataName data⟩)]
    rfl
  · rw [whole, ← String.toList_ofList (l := key)]
    exact notices_apply_append directive (by rwa [String.toList_ofList]) value

theorem notices_read (text : String) :
    (read text).notices = (Text.words text.toList).flatMap tokenNotices := by
  have each : ∀ directive token, (apply directive token).notices = (apply {} token).notices := by
    intro directive token
    cases token <;> rfl
  rw [read, Reported.notices_foldlM each, List.flatMap_map]
  simp only [notices_apply]

theorem no_equals_of_mem_lineKeys : ∀ key ∈ lineKeys, '=' ∉ key.toList := by decide

theorem not_isData_of_mem_lineKeys : ∀ key ∈ lineKeys, ¬ IsData key := by decide

/-- Nothing is reported about a token exactly where it has a meaning in all of its parts. -/
theorem tokenNotices_eq_nil_iff {token : List Char} : tokenNotices token = [] ↔ IsToken token := by
  constructor
  · intro silent
    by_cases bare : '=' ∈ token
    · obtain ⟨key, value, rfl, keyFree⟩ := List.eq_append_cons_of_mem bare
      obtain ⟨name, rfl⟩ : ∃ name : String, key = name.toList :=
        ⟨String.ofList key, String.toList_ofList.symm⟩
      rw [tokenNotices_append keyFree, String.ofList_toList] at silent
      split at silent
      · rename_i isKey
        refine .lines isKey fun part member => ?_
        exact LineSet.partNotices_eq_nil_iff.1 (List.flatMap_eq_nil_iff.1 silent part member)
      · split at silent
        · rename_i data
          exact .setting data value
        · contradiction
    · rw [tokenNotices_of_bare bare] at silent
      split at silent
      · rename_i known
        obtain rfl | data := known
        · exact .preserveScopes
        · rw [← String.toList_ofList (l := token)]
          exact .flag data
      · contradiction
  · intro isToken
    cases isToken with
    | preserveScopes => decide
    | @flag name data =>
        rw [tokenNotices_of_bare data.no_equals, String.ofList_toList, if_pos (.inr data)]
    | @setting name data value =>
        have noLines : name ∉ lineKeys := fun isKey => not_isData_of_mem_lineKeys name isKey data
        rw [tokenNotices_append data.no_equals, String.ofList_toList, if_neg noLines, if_pos data]
    | @lines key isKey value parts =>
        rw [tokenNotices_append (no_equals_of_mem_lineKeys key isKey), String.ofList_toList,
          if_pos isKey, List.flatMap_eq_nil_iff]
        exact fun part member => LineSet.partNotices_eq_nil_iff.2 (parts part member)

instance (token : List Char) : Decidable (IsToken token) :=
  decidable_of_iff _ tokenNotices_eq_nil_iff

/-- The tokens of a directive are reported in turn, and the parts of a token in turn, each for what
it has outside the grammar and whatever comes after it. So nothing is reported about a directive
exactly where all of its tokens have a meaning. -/
theorem read_reports_exactly_outside_grammar (text : String) :
    let tokens := Text.words text.toList
    (read text).notices = tokens.flatMap tokenNotices ∧
    (∀ token, '=' ∉ token → tokenNotices token =
      if token = "preserve-scopes".toList ∨ IsData (String.ofList token) then []
      else [.unhandledToken (String.ofList token)]) ∧
    (∀ key value, '=' ∉ key → tokenNotices (key ++ '=' :: value) =
      if String.ofList key ∈ ["highlight", "show", "hide"] then
        (LineSet.listParts value).flatMap LineSet.partNotices
      else if IsData (String.ofList key) then []
      else [.unhandledSetting (String.ofList key) (String.ofList value)]) ∧
    (∀ part, LineSet.partNotices part =
      if LineSet.IsPart part then []
      else if '-' ∈ part then [.malformedRange (String.ofList part)]
      else [.malformedNumber (String.ofList part)]) ∧
    ((read text).notices = [] ↔ ∀ token ∈ tokens, IsToken token) ∧
    -- How the notices are shown.
    (∀ token, (Notice.unhandledToken token).Warns "Unhandled code block directive"
      [("token", .text token)]) ∧
    (∀ key value, (Notice.unhandledSetting key value).Warns "Unhandled code block directive"
      [("key", .text key), ("value", .text value)]) ∧
    (∀ part, (Notice.malformedRange part).Warns "Malformed line range in code block directive"
      [("part", .text part)]) ∧
    ∀ part, (Notice.malformedNumber part).Warns "Malformed line number in code block directive"
      [("part", .text part)] := by
  intro tokens
  refine ⟨notices_read text, fun _ => tokenNotices_of_bare,
    fun _ value keyFree => tokenNotices_append keyFree value, fun _ => rfl, ?_,
    fun _ => ⟨rfl, rfl, rfl⟩, fun _ _ => ⟨rfl, rfl, rfl⟩, fun _ => ⟨rfl, rfl, rfl⟩,
    fun _ => ⟨rfl, rfl, rfl⟩⟩
  rw [notices_read, List.flatMap_eq_nil_iff]
  exact forall₂_congr fun _ _ => tokenNotices_eq_nil_iff

theorem read_reports_exactly_outside_grammar_of_overwritten_list :
    (read "hide=1-,x,4 data-x=' title=a=b hide=[2,,+3-1] data-x!").notices =
      [.malformedRange "1-", .malformedNumber "x", .unhandledSetting "title" "a=b",
        .unhandledToken "data-x!"] ∧
    (read "hide=[2,,+3-1] data-x=' preserve-scopes data-").notices = [] := by
  obtain ⟨reported, _⟩ := read_reports_exactly_outside_grammar
    "hide=1-,x,4 data-x=' title=a=b hide=[2,,+3-1] data-x!"
  obtain ⟨_, _, _, _, silent, _⟩ := read_reports_exactly_outside_grammar
    "hide=[2,,+3-1] data-x=' preserve-scopes data-"
  refine ⟨reported.trans (by decide), silent.2 (by decide)⟩

end Directive

end Listings

/-
This file says what one token of a directive means: which field of it the token is about and what it
sets that field to.
-/

import Listings.Proofs.Directive.Names
import Listings.Proofs.Markup.Lookup

namespace Listings

open Markup (Attribute Attributes)

namespace Directive

/-- The key of a token ends before its first `=`. -/
def keyOf (token : List Char) : List Char := token.takeWhile (· ≠ '=')

/-- What follows the `=` in a token that sets the key. -/
def setting? (key : String) (token : List Char) : Option (List Char) :=
  Text.dropStart? (key.toList ++ ['=']) token

/-- What a token sets the attribute of a name to. -/
def attribute? (name : String) (token : List Char) : Option Attribute :=
  if token = name.toList then some (.flag true)
  else (setting? name token).map fun value => .text (String.ofList (unquote value))

/-- The lines that a value names. -/
def linesOf (value : List Char) : LineSet := (LineSet.read value).value

/-- The directive after one more token. -/
def next (directive : Directive) (token : List Char) : Directive :=
  (apply directive (Token.ofWord token)).value

theorem setting?_eq_some_iff {key : String} {token value : List Char} :
    setting? key token = some value ↔ token = key.toList ++ '=' :: value := by
  rw [setting?, Text.dropStart?_eq_some_iff, List.append_assoc, List.singleton_append]

/-- A token without a `=` sets no key. -/
theorem setting?_eq_none {token : List Char} (bare : '=' ∉ token) (key : String) :
    setting? key token = none := by
  rw [Option.eq_none_iff_forall_ne_some]
  intro value sets
  rw [setting?_eq_some_iff.1 sets] at bare
  simp at bare

theorem eq_of_append_equals {first second rest other : List Char} (firstFree : '=' ∉ first)
    (secondFree : '=' ∉ second) (same : first ++ '=' :: rest = second ++ '=' :: other) :
    first = second ∧ rest = other := by
  have cut := Text.cutAt?_eq_some_iff.2 ⟨same, secondFree⟩
  rw [Text.cutAt?_eq_some_iff.2 ⟨rfl, firstFree⟩] at cut
  cases cut
  exact ⟨rfl, rfl⟩

/-- A token with a `=` sets the key before its first one. -/
theorem setting?_append {key : List Char} (keyFree : '=' ∉ key) (value : List Char) {other : String}
    (otherFree : '=' ∉ other.toList) :
    setting? other (key ++ '=' :: value) = if key = other.toList then some value else none := by
  by_cases same : key = other.toList
  · rw [if_pos same, setting?_eq_some_iff, same]
  · rw [if_neg same, Option.eq_none_iff_forall_ne_some]
    intro found sets
    exact same (eq_of_append_equals keyFree otherFree (setting?_eq_some_iff.1 sets)).1

theorem append_ne_preserveScopes (key value : List Char) :
    key ++ '=' :: value ≠ "preserve-scopes".toList := by
  intro same
  have member : '=' ∈ "preserve-scopes".toList := same ▸ by simp
  exact absurd member (by decide)

theorem ofWord_append {key : List Char} (keyFree : '=' ∉ key) (value : List Char) :
    Token.ofWord (key ++ '=' :: value) =
      if key = "highlight".toList then .highlightLines value
      else if key = "show".toList then .showLines value
      else if key = "hide".toList then .hideLines value
      else if isDataName key then .setAttribute key (.text (String.ofList (unquote value)))
      else .unhandled (.unhandledSetting (String.ofList key) (String.ofList value)) := by
  rw [Token.ofWord, if_neg (append_ne_preserveScopes key value),
    Text.cutAt?_eq_some_iff.2 ⟨rfl, keyFree⟩]

/-- A token stands for itself, for an attribute without a value, for nothing, or sets a key. -/
theorem ofWord_cases (token : List Char) :
    (token = "preserve-scopes".toList ∧ Token.ofWord token = .preserveScopes) ∨
    ('=' ∉ token ∧ token ≠ "preserve-scopes".toList ∧ isDataName token = true ∧
      Token.ofWord token = .setAttribute token (.flag true)) ∨
    ('=' ∉ token ∧ token ≠ "preserve-scopes".toList ∧ isDataName token = false ∧
      Token.ofWord token = .unhandled (.unhandledToken (String.ofList token))) ∨
    ∃ key value, token = key ++ '=' :: value ∧ '=' ∉ key ∧ Token.ofWord token =
      if key = "highlight".toList then .highlightLines value
      else if key = "show".toList then .showLines value
      else if key = "hide".toList then .hideLines value
      else if isDataName key then .setAttribute key (.text (String.ofList (unquote value)))
      else .unhandled (.unhandledSetting (String.ofList key) (String.ofList value)) := by
  by_cases preserves : token = "preserve-scopes".toList
  · exact .inl ⟨preserves, if_pos preserves⟩
  · cases cut : Text.cutAt? (· == '=') token with
    | none =>
        have bare := Text.cutAt?_eq_none_iff.1 cut
        rw [Token.ofWord, if_neg preserves, cut]
        cases data : isDataName token with
        | true => exact .inr (.inl ⟨bare, preserves, rfl, rfl⟩)
        | false => exact .inr (.inr (.inl ⟨bare, preserves, rfl, rfl⟩))
    | some sides =>
        obtain ⟨key, value⟩ := sides
        obtain ⟨whole, keyFree⟩ := Text.cutAt?_eq_some_iff.1 cut
        exact .inr (.inr (.inr ⟨key, value, whole, keyFree, whole ▸ ofWord_append keyFree value⟩))

/-- One more token leaves every field but the one that it is about. -/
theorem next_eq (directive : Directive) (token : List Char) :
    next directive token = { directive with
      hidden := ((setting? "hide" token).map linesOf).getD directive.hidden
      shown := ((setting? "show" token).map fun value => some (linesOf value)).getD directive.shown
      highlighted := ((setting? "highlight" token).map linesOf).getD directive.highlighted
      preservesScopes := directive.preservesScopes || token = "preserve-scopes".toList
      attributes := (next directive token).attributes } := by
  unfold next
  rcases ofWord_cases token with
    ⟨rfl, kind⟩ | ⟨bare, other, _, kind⟩ | ⟨bare, other, _, kind⟩ | ⟨key, value, rfl, keyFree, kind⟩
  · rw [kind, setting?_eq_none (by decide), setting?_eq_none (by decide),
      setting?_eq_none (by decide), decide_eq_true rfl, Bool.or_true]
    rfl
  · rw [kind, setting?_eq_none bare, setting?_eq_none bare, setting?_eq_none bare,
      decide_eq_false other, Bool.or_false]
    rfl
  · rw [kind, setting?_eq_none bare, setting?_eq_none bare, setting?_eq_none bare,
      decide_eq_false other, Bool.or_false]
    rfl
  · have other := append_ne_preserveScopes key value
    rw [kind, setting?_append keyFree value (by decide), setting?_append keyFree value (by decide),
      setting?_append keyFree value (by decide), decide_eq_false other, Bool.or_false]
    by_cases highlights : key = "highlight".toList
    · subst highlights
      rfl
    · by_cases shows : key = "show".toList
      · subst shows
        rfl
      · by_cases hides : key = "hide".toList
        · subst hides
          rfl
        · rw [if_neg highlights, if_neg shows, if_neg hides, if_neg highlights, if_neg shows,
            if_neg hides]
          cases isDataName key <;> rfl

/-- A `data-` name, character by character. -/
def IsData (name : String) : Prop :=
  ∃ rest, name.toList = "data-".toList ++ rest ∧ ∀ c ∈ rest, c.isAlphanum = true

theorem isAsciiAlphanumeric_eq (c : Char) : isAsciiAlphanumeric c = c.isAlphanum := by
  have upper : c.isUpper = (decide ('A' ≤ c) && decide (c ≤ 'Z')) :=
    Bool.decide_and ('A' ≤ c) (c ≤ 'Z')
  have known : c.isAlphanum = (c.isUpper || c.isLower || c.isDigit) := rfl
  rw [known, upper, Bool.or_comm, Bool.or_comm _ c.isLower, ← Bool.or_assoc]
  rfl

theorem isDataName_iff {name : String} : isDataName name.toList = true ↔ IsData name := by
  unfold isDataName IsData
  constructor
  · intro data
    split at data
    · rename_i rest found
      refine ⟨rest, Text.dropStart?_eq_some_iff.1 found, fun c member => ?_⟩
      rw [← isAsciiAlphanumeric_eq]
      exact List.all_eq_true.1 data c member
    · contradiction
  · rintro ⟨rest, whole, alphanumeric⟩
    rw [Text.dropStart?_eq_some_iff.2 whole]
    refine List.all_eq_true.2 fun c member => ?_
    rw [isAsciiAlphanumeric_eq]
    exact alphanumeric c member

theorem IsData.no_equals {name : String} (data : IsData name) : '=' ∉ name.toList := by
  obtain ⟨rest, whole, alphanumeric⟩ := data
  rw [whole, List.mem_append, not_or]
  refine ⟨by decide, fun member => ?_⟩
  exact absurd (alphanumeric '=' member) (by decide)

theorem attribute?_of_bare {token : List Char} (bare : '=' ∉ token) (name : String) :
    attribute? name token = if token = name.toList then some (.flag true) else none := by
  rw [attribute?, setting?_eq_none bare, Option.map_none]

theorem attribute?_append {key : List Char} (keyFree : '=' ∉ key) (value : List Char)
    {name : String} (nameFree : '=' ∉ name.toList) :
    attribute? name (key ++ '=' :: value) =
      if key = name.toList then some (.text (String.ofList (unquote value))) else none := by
  have longer : key ++ '=' :: value ≠ name.toList := by
    intro same
    rw [← same] at nameFree
    simp at nameFree
  rw [attribute?, if_neg longer, setting?_append keyFree value nameFree]
  split <;> rfl

theorem get?_next_of_sets {directive : Directive} {token : List Char} {name : String}
    {value : Attribute} (sets : Token.ofWord token = .setAttribute name.toList value) :
    (next directive token).attributes.get? name = some value := by
  rw [next, sets]
  refine (Attributes.get?_insert _ _ _ _).trans (if_pos ?_)
  exact String.ofList_toList.symm

theorem get?_next_of_not_sets {directive : Directive} {token : List Char} {name : String}
    (other : ∀ value, Token.ofWord token ≠ .setAttribute name.toList value) :
    (next directive token).attributes.get? name = directive.attributes.get? name := by
  unfold next
  cases kind : Token.ofWord token with
  | setAttribute key value =>
      have different : name ≠ String.ofList key := by
        rintro rfl
        rw [String.toList_ofList] at other
        exact other value kind
      exact (Attributes.get?_insert _ _ _ _).trans (if_neg different)
  | preserveScopes => rfl
  | highlightLines value => rfl
  | showLines value => rfl
  | hideLines value => rfl
  | unhandled notice => rfl

/-- What a token sets an attribute to is decided by its text. -/
theorem ofWord_eq_setAttribute_iff {token : List Char} {name : String} {value : Attribute} :
    Token.ofWord token = .setAttribute name.toList value ↔
      isDataName name.toList = true ∧ attribute? name token = some value := by
  constructor
  · intro sets
    have data := isDataName_of_ofWord sets
    refine ⟨data, ?_⟩
    rcases ofWord_cases token with
      ⟨rfl, kind⟩ | ⟨bare, _, _, kind⟩ | ⟨bare, _, other, kind⟩ | ⟨key, text, rfl, keyFree, kind⟩
    · rw [kind] at sets
      contradiction
    · rw [kind] at sets
      cases sets
      rw [attribute?_of_bare bare, if_pos rfl]
    · rw [kind] at sets
      contradiction
    · rw [attribute?_append keyFree text (isDataName_iff.1 data).no_equals]
      rw [kind] at sets
      split at sets
      · contradiction
      · split at sets
        · contradiction
        · split at sets
          · contradiction
          · split at sets
            · cases sets
              rw [if_pos rfl]
            · contradiction
  · rintro ⟨data, sets⟩
    rcases ofWord_cases token with
      ⟨rfl, kind⟩ | ⟨bare, _, _, kind⟩ | ⟨bare, _, other, kind⟩ | ⟨key, text, rfl, keyFree, kind⟩
    · rw [attribute?_of_bare (by decide)] at sets
      split at sets
      · rename_i same
        rw [← same] at data
        exact absurd data (by decide)
      · contradiction
    · rw [attribute?_of_bare bare] at sets
      split at sets
      · rename_i same
        cases sets
        rw [kind, same]
      · contradiction
    · rw [attribute?_of_bare bare] at sets
      split at sets
      · rename_i same
        rw [same, data] at other
        contradiction
      · contradiction
    · rw [attribute?_append keyFree text (isDataName_iff.1 data).no_equals] at sets
      split at sets
      · rename_i same
        cases sets
        have plain : ∀ field : String, isDataName field.toList = false → key ≠ field.toList := by
          intro field noData isField
          rw [← isField, same, data] at noData
          contradiction
        rw [kind, if_neg (plain "highlight" (by decide)), if_neg (plain "show" (by decide)),
          if_neg (plain "hide" (by decide)), same, if_pos data]
      · contradiction

/-- A token sets the attributes that it names, and only under `data-` names. -/
theorem get?_next (directive : Directive) (token : List Char) (name : String) :
    (next directive token).attributes.get? name =
      (if isDataName name.toList then (attribute? name token).map some else none).getD
        (directive.attributes.get? name) := by
  by_cases sets : ∃ value, Token.ofWord token = .setAttribute name.toList value
  · obtain ⟨value, isValue⟩ := sets
    obtain ⟨data, given⟩ := ofWord_eq_setAttribute_iff.1 isValue
    rw [get?_next_of_sets isValue, if_pos data, given]
    rfl
  · rw [get?_next_of_not_sets (not_exists.1 sets)]
    split
    · rename_i data
      cases given : attribute? name token with
      | none => rfl
      | some value => exact absurd ⟨value, ofWord_eq_setAttribute_iff.2 ⟨data, given⟩⟩ sets
    · rfl

theorem attribute?_isSome_iff {name : String} {token : List Char} :
    (attribute? name token).isSome = true ↔
      token = name.toList ∨ ∃ value, token = name.toList ++ '=' :: value := by
  unfold attribute?
  split
  · rename_i same
    exact iff_of_true rfl (.inl same)
  · rename_i different
    rw [Option.isSome_map, Option.isSome_iff_exists, or_iff_right different]
    exact exists_congr fun value => setting?_eq_some_iff

theorem keyOf_append {key : List Char} (keyFree : '=' ∉ key) (value : List Char) :
    keyOf (key ++ '=' :: value) = key := by
  have passes : ∀ c ∈ key, decide (c ≠ '=') = true := by
    intro c member
    exact decide_eq_true fun same => keyFree (same ▸ member)
  rw [keyOf, List.takeWhile_append_of_pos passes]
  simp

theorem keyOf_of_bare {token : List Char} (bare : '=' ∉ token) : keyOf token = token := by
  refine List.takeWhile_eq_self_iff.2 fun c member => ?_
  exact decide_eq_true fun same => bare (same ▸ member)

/-- The tokens about a `data-` name are those that have it as their key. -/
theorem keyOf_eq_iff {name : String} (nameFree : '=' ∉ name.toList) {token : List Char} :
    keyOf token = name.toList ↔ (attribute? name token).isSome = true := by
  rw [attribute?_isSome_iff]
  constructor
  · intro isKey
    by_cases member : '=' ∈ token
    · obtain ⟨key, value, rfl, keyFree⟩ := List.eq_append_cons_of_mem member
      rw [keyOf_append keyFree] at isKey
      exact .inr ⟨value, by rw [isKey]⟩
    · rw [keyOf_of_bare member] at isKey
      exact .inl isKey
  · rintro (rfl | ⟨value, rfl⟩)
    · exact keyOf_of_bare nameFree
    · exact keyOf_append nameFree value

/-- The token means something. -/
def recognizes (token : List Char) : Bool :=
  match Token.ofWord token with
  | .unhandled _ => false
  | _ => true

theorem setting?_isAbout {key : String} (keyFree : '=' ∉ key.toList)
    (isField : key = "highlight" ∨ key = "show" ∨ key = "hide") (token : List Char)
    (sets : (setting? key token).isSome = true) :
    recognizes token = true ∧ keyOf token = key.toList := by
  obtain ⟨value, isValue⟩ := Option.isSome_iff_exists.1 sets
  rw [setting?_eq_some_iff] at isValue
  subst isValue
  refine ⟨?_, keyOf_append keyFree value⟩
  rw [recognizes, ofWord_append keyFree]
  rcases isField with rfl | rfl | rfl <;> rfl

theorem attribute?_isAbout {name : String} (data : isDataName name.toList = true)
    (token : List Char) (sets : (attribute? name token).isSome = true) :
    recognizes token = true ∧ keyOf token = name.toList := by
  refine ⟨?_, (keyOf_eq_iff (isDataName_iff.1 data).no_equals).2 sets⟩
  obtain ⟨value, isValue⟩ := Option.isSome_iff_exists.1 sets
  rw [recognizes, ofWord_eq_setAttribute_iff.2 ⟨data, isValue⟩]

theorem unquote_of_quoted {quote : Char} (isQuote : quote = '"' ∨ quote = '\'')
    (inner : List Char) : unquote (quote :: inner ++ [quote]) = inner := by
  rcases isQuote with rfl | rfl
  · rw [unquote, Text.unwrap?_eq_some_iff.2 rfl]
  · have otherQuote : Text.unwrap? '"' '"' ('\'' :: inner ++ ['\'']) = none := by
      rw [List.cons_append, Text.unwrap?, if_neg (by decide)]
    rw [unquote, otherQuote, Text.unwrap?_eq_some_iff.2 rfl]
    rfl

theorem unquote_of_not_quoted {value : List Char}
    (unquoted : ∀ quote inner, quote = '"' ∨ quote = '\'' → value ≠ quote :: inner ++ [quote]) :
    unquote value = value := by
  have kept : ∀ quote, quote = '"' ∨ quote = '\'' → Text.unwrap? quote quote value = none := by
    intro quote isQuote
    rw [Option.eq_none_iff_forall_ne_some]
    intro inner unwraps
    exact unquoted quote inner isQuote (Text.unwrap?_eq_some_iff.1 unwraps)
  rw [unquote, kept '"' (.inl rfl), kept '\'' (.inr rfl)]
  rfl

end Directive

end Listings

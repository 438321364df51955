/-
This file reads a directive off its tokens: each of its fields is what the last token about it says.
-/

import Listings.Proofs.Directive.Tokens

namespace Listings

open Markup (Attribute Attributes)

namespace Directive

/-- What the last token that sets the key sets it to. -/
def lastSetting? (key : String) (tokens : List (List Char)) : Option (List Char) :=
  (tokens.filterMap (setting? key)).getLast?

theorem value_read (text : String) :
    (read text).value = (Text.words text.toList).foldl next {} := by
  rw [read, Reported.value_foldlM, List.foldl_map]
  rfl

/-- What each item writes to a field stays until the next one writes to it. -/
theorem foldl_eq_last {state item field : Type} (read : state → field)
    {step : state → item → state} {writes : item → Option field}
    (each : ∀ value next, read (step value next) = (writes next).getD (read value))
    (items : List item) (start : state) :
    read (items.foldl step start) = (items.filterMap writes).getLast?.getD (read start) := by
  induction items generalizing start with
  | nil => rfl
  | cons first rest inductionHypothesis =>
      rw [List.foldl_cons, inductionHypothesis, each]
      cases written : writes first with
      | none => rw [List.filterMap_cons_none written, Option.getD_none]
      | some value =>
          rw [List.filterMap_cons_some written, List.getLast?_cons, Option.getD_some,
            Option.getD_some]

/-- Lines are those that the last token about them names. -/
theorem foldl_lines {field : Type} {get : Directive → field} {key : String} (make : LineSet → field)
    (each : ∀ directive token, get (next directive token) =
      ((setting? key token).map fun value => make (linesOf value)).getD (get directive))
    (tokens : List (List Char)) :
    get (tokens.foldl next {}) =
      ((lastSetting? key tokens).map fun value => make (linesOf value)).getD (get {}) := by
  rw [foldl_eq_last get each, lastSetting?, ← List.getLast?_map, List.map_filterMap]

theorem foldl_highlighted (tokens : List (List Char)) :
    (tokens.foldl next {}).highlighted =
      ((lastSetting? "highlight" tokens).map linesOf).getD ∅ := by
  refine foldl_lines id (fun directive token => ?_) tokens
  rw [next_eq]
  rfl

theorem foldl_hidden (tokens : List (List Char)) :
    (tokens.foldl next {}).hidden = ((lastSetting? "hide" tokens).map linesOf).getD ∅ := by
  refine foldl_lines id (fun directive token => ?_) tokens
  rw [next_eq]
  rfl

theorem foldl_shown (tokens : List (List Char)) :
    (tokens.foldl next {}).shown = (lastSetting? "show" tokens).map linesOf := by
  have lines : (tokens.foldl next {}).shown =
      ((lastSetting? "show" tokens).map fun value => some (linesOf value)).getD none := by
    refine foldl_lines some (fun directive token => ?_) tokens
    rw [next_eq]
  rw [lines]
  cases lastSetting? "show" tokens <;> rfl

theorem foldl_preservesScopes (tokens : List (List Char)) (start : Directive) :
    (tokens.foldl next start).preservesScopes = true ↔
      start.preservesScopes = true ∨ "preserve-scopes".toList ∈ tokens := by
  induction tokens generalizing start with
  | nil => simp
  | cons token rest inductionHypothesis =>
      rw [List.foldl_cons, inductionHypothesis, next_eq, Bool.or_eq_true, decide_eq_true_iff,
        List.mem_cons, or_assoc, eq_comm (a := token)]

theorem foldl_inline (tokens : List (List Char)) (start : Directive) :
    (tokens.foldl next start).inline = start.inline := by
  induction tokens generalizing start with
  | nil => rfl
  | cons token rest inductionHypothesis =>
      rw [List.foldl_cons, inductionHypothesis, next_eq]

/-- An attribute is what the last token about it sets it to. -/
theorem get?_foldl (tokens : List (List Char)) (name : String) :
    (tokens.foldl next {}).attributes.get? name =
      if isDataName name.toList then (tokens.filterMap (attribute? name)).getLast? else none := by
  rw [foldl_eq_last (fun directive : Directive => directive.attributes.get? name)
    fun directive token => get?_next directive token name]
  split
  · rw [← List.map_filterMap, List.getLast?_map]
    cases (tokens.filterMap (attribute? name)).getLast? <;> rfl
  · rw [List.filterMap_none]
    rfl

/-- The tokens with the key that mean something. -/
def about (key : List Char) (tokens : List (List Char)) : List (List Char) :=
  tokens.filter fun token => recognizes token && keyOf token = key

theorem filterMap_about {field : Type} {key : List Char} {writes : List Char → Option field}
    (isAbout : ∀ token, (writes token).isSome = true → recognizes token = true ∧ keyOf token = key)
    (tokens : List (List Char)) :
    (about key tokens).filterMap writes = tokens.filterMap writes := by
  induction tokens with
  | nil => rfl
  | cons token rest inductionHypothesis =>
      unfold about at inductionHypothesis ⊢
      cases written : writes token with
      | some value =>
          obtain ⟨recognized, isKey⟩ := isAbout token (by rw [written]; rfl)
          rw [List.filter_cons_of_pos (by simp [recognized, isKey]),
            List.filterMap_cons_some written, List.filterMap_cons_some written, inductionHypothesis]
      | none =>
          rw [List.filterMap_cons_none written, ← inductionHypothesis, List.filter_cons]
          split
          · rw [List.filterMap_cons_none written]
          · rfl

theorem lastSetting?_about {key : String} (keyFree : '=' ∉ key.toList)
    (isField : key = "highlight" ∨ key = "show" ∨ key = "hide") {tokens others : List (List Char)}
    (same : about key.toList tokens = about key.toList others) :
    lastSetting? key tokens = lastSetting? key others := by
  have isAbout := setting?_isAbout keyFree isField
  rw [lastSetting?, lastSetting?, ← filterMap_about isAbout, same, filterMap_about isAbout]

theorem mem_about_preserveScopes {tokens : List (List Char)} :
    "preserve-scopes".toList ∈ about "preserve-scopes".toList tokens ↔
      "preserve-scopes".toList ∈ tokens := by
  have known : recognizes "preserve-scopes".toList = true ∧
      keyOf "preserve-scopes".toList = "preserve-scopes".toList := by decide
  rw [about, List.mem_filter, known.1, known.2]
  simp

theorem attributes_about {tokens others : List (List Char)}
    (same : ∀ key, about key tokens = about key others) (name : String) :
    (tokens.foldl next {}).attributes.get? name = (others.foldl next {}).attributes.get? name := by
  rw [get?_foldl, get?_foldl]
  split
  · rename_i data
    have isAbout := attribute?_isAbout data
    rw [← filterMap_about isAbout, same, filterMap_about isAbout]
  · rfl

/-- Directives whose tokens about each key are the same are the same. -/
theorem foldl_eq_of_about_eq {tokens others : List (List Char)}
    (same : ∀ key, about key tokens = about key others) :
    tokens.foldl next {} = others.foldl next {} := by
  have fields : ∀ {first second : Directive}, first.hidden = second.hidden →
      first.shown = second.shown → first.highlighted = second.highlighted →
      first.preservesScopes = second.preservesScopes → first.inline = second.inline →
      first.attributes = second.attributes → first = second := by
    rintro ⟨⟩ ⟨⟩ rfl rfl rfl rfl rfl rfl
    rfl
  refine fields ?_ ?_ ?_ ?_ ?_ ?_
  · rw [foldl_hidden, foldl_hidden, lastSetting?_about (by decide) (by decide) (same _)]
  · rw [foldl_shown, foldl_shown, lastSetting?_about (by decide) (by decide) (same _)]
  · rw [foldl_highlighted, foldl_highlighted, lastSetting?_about (by decide) (by decide) (same _)]
  · rw [Bool.eq_iff_iff, foldl_preservesScopes, foldl_preservesScopes,
      ← mem_about_preserveScopes, same, mem_about_preserveScopes]
  · rw [foldl_inline, foldl_inline]
  · exact Attributes.ext_get? (attributes_about same)

theorem get?_isSome_iff (tokens : List (List Char)) (name : String) :
    ((tokens.foldl next {}).attributes.get? name).isSome = true ↔ IsData name ∧
      ∃ token ∈ tokens, token = name.toList ∨ ∃ value, token = name.toList ++ '=' :: value := by
  rw [get?_foldl, ← isDataName_iff]
  split
  · rename_i data
    rw [and_iff_right data, List.getLast?_isSome, ne_eq, List.filterMap_eq_nil_iff]
    simp only [not_forall, exists_prop, ← ne_eq, Option.ne_none_iff_isSome, attribute?_isSome_iff]
  · rename_i notData
    exact iff_of_false Bool.false_ne_true fun both => notData both.1

/-- The last token about an attribute decides it. -/
theorem get?_foldl_of_last {name : String} (data : IsData name) {before after : List (List Char)}
    {token : List Char} (isLast : ∀ later ∈ after, keyOf later ≠ name.toList)
    {value : Attribute} (sets : attribute? name token = some value) :
    ((before ++ token :: after).foldl next {}).attributes.get? name = some value := by
  have nothing : after.filterMap (attribute? name) = [] := by
    refine List.filterMap_eq_nil_iff.2 fun later member => ?_
    exact Option.not_isSome_iff_eq_none.1
      (mt (keyOf_eq_iff data.no_equals).2 (isLast later member))
  rw [get?_foldl, if_pos (isDataName_iff.2 data), List.filterMap_append,
    List.filterMap_cons_some sets, nothing, List.getLast?_concat]

/-- Every field of a directive is what the last token about it says, so that neither the order of
tokens with different keys matters nor a token that means nothing. No token asks for an edit: edits
are a caller's, and a directive has no place for them. -/
theorem read_eq_last_tokens (text : String) :
    let tokens := Text.words text.toList
    let directive := (read text).value
    directive.highlighted = ((lastSetting? "highlight" tokens).map linesOf).getD ∅ ∧
    directive.hidden = ((lastSetting? "hide" tokens).map linesOf).getD ∅ ∧
    directive.shown = (lastSetting? "show" tokens).map linesOf ∧
    (directive.preservesScopes = true ↔ "preserve-scopes".toList ∈ tokens) ∧
    directive.inline = none ∧
    (∀ name, (directive.attributes.get? name).isSome = true ↔ IsData name ∧
      ∃ token ∈ tokens, token = name.toList ∨ ∃ value, token = name.toList ++ '=' :: value) ∧
    (∀ name before token after, IsData name → tokens = before ++ token :: after →
      (∀ later ∈ after, keyOf later ≠ name.toList) →
        (token = name.toList → directive.attributes.get? name = some (.flag true)) ∧
        ∀ value, token = name.toList ++ '=' :: value →
          directive.attributes.get? name = some (.text (String.ofList (unquote value)))) ∧
    -- One pair of quotes is not part of a value.
    (∀ quote inner, quote = '"' ∨ quote = '\'' → unquote (quote :: inner ++ [quote]) = inner) ∧
    (∀ value, (∀ quote inner, quote = '"' ∨ quote = '\'' → value ≠ quote :: inner ++ [quote]) →
      unquote value = value) ∧
    ∀ other : String, (∀ key, about key (Text.words other.toList) = about key tokens) →
      (read other).value = directive := by
  intro tokens directive
  have folded : directive = tokens.foldl next {} := value_read text
  refine ⟨?_, ?_, ?_, ?_, ?_, ?_, ?_, fun _ inner isQuote => unquote_of_quoted isQuote inner,
    fun _ unquoted => unquote_of_not_quoted unquoted, ?_⟩
  · rw [folded, foldl_highlighted]
  · rw [folded, foldl_hidden]
  · rw [folded, foldl_shown]
  · rw [folded, foldl_preservesScopes]
    exact or_iff_right Bool.false_ne_true
  · rw [folded, foldl_inline]
  · intro name
    rw [folded, get?_isSome_iff]
  · intro name before token after data split isLast
    rw [folded, split]
    refine ⟨?_, ?_⟩
    · rintro rfl
      exact get?_foldl_of_last data isLast (if_pos rfl)
    · rintro value rfl
      refine get?_foldl_of_last data isLast ?_
      rw [attribute?_append data.no_equals value data.no_equals, if_pos rfl]
  · intro other same
    rw [folded, value_read]
    exact foldl_eq_of_about_eq same

theorem read_eq_last_tokens_when_rearranged :
    (read "hide=2 data-a=1 data-a").value = (read "data-a=1 hide=2 title=x data-a").value ∧
      (read "data-a=1 hide=2 title=x data-a").value.attributes.get? "data-a" =
        some (.flag true) := by
  obtain ⟨_, _, _, _, _, _, decided, _, _, rearranged⟩ :=
    read_eq_last_tokens "data-a=1 hide=2 title=x data-a"
  refine ⟨rearranged _ fun key => ?_, ?_⟩
  · by_cases isData : key = "data-a".toList
    · subst isData
      decide
    · by_cases hides : key = "hide".toList
      · subst hides
        decide
      · have keys : ∀ tokens : List (List Char), (∀ token ∈ tokens, recognizes token = true →
            keyOf token ∈ ["data-a".toList, "hide".toList]) → about key tokens = [] := by
          intro tokens known
          refine List.filter_eq_nil_iff.2 fun token member both => ?_
          rw [Bool.and_eq_true, decide_eq_true_iff] at both
          have either := known token member both.1
          rw [both.2, List.mem_cons, List.mem_singleton] at either
          exact either.elim isData hides
        rw [keys _ (by decide), keys _ (by decide)]
  · have data : IsData "data-a" := isDataName_iff.1 (by decide)
    exact (decided "data-a" ["data-a=1".toList, "hide=2".toList, "title=x".toList]
      "data-a".toList [] data (by decide) nofun).1 rfl

end Directive

end Listings

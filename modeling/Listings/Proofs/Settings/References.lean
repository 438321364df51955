/-
This file says what stands in the places of the variables that a text refers to.
-/

import Listings.Proofs.Settings.FromFile
import Listings.Proofs.Settings.Template

namespace Listings

variable {world : Surroundings Id} {template : Template}

namespace Settings

theorem exists_failFirst_content_iff :
    (∃ name, FailFirst (TemplatePart.content world) template name) ↔
      ∃ name, .reference name none ∈ template ∧ (world.getVariable name).run = none := by
  rw [exists_failFirst_iff]
  constructor
  · rintro ⟨part, isPart, name, fails⟩
    obtain ⟨rfl, isUnset⟩ := TemplatePart.content_eq_error_iff.1 fails
    exact ⟨name, isPart, isUnset⟩
  · rintro ⟨name, isPart, isUnset⟩
    exact ⟨_, isPart, name, TemplatePart.content_eq_error_iff.2 ⟨rfl, isUnset⟩⟩

/-- References are replaced and all else is copied, unless the text opens a brace after some dollar
sign and copies another one that could begin something. -/
theorem expand_replaces_only_references (world : Surroundings Id) (field text : String) :
    ∃ template, Template.Means text.toList template ∧
      (∀ other, Template.Means text.toList other → other = template) ∧
      (¬ ['$', '\x7b'] <:+: text.toList ∨ template.KeepsDollars →
        (∀ content, outcome (expand world field text) = .ok content ↔
          ∃ contents, List.Forall₂ (TemplatePart.Gives world) template contents ∧
            content = String.ofList contents.flatten) ∧
        ((∃ error, outcome (expand world field text) = .error error) ↔
          ∃ name, .reference name none ∈ template ∧ (world.getVariable name).run = none) ∧
        ∀ error, outcome (expand world field text) = .error error ↔
          ∃ before name after, template = before ++ .reference name none :: after ∧
            (∀ part ∈ before, ∃ content, part.Gives world content) ∧
            (world.getVariable name).run = none ∧ error = .unset field name) := by
  obtain ⟨template, means⟩ := Template.exists_means text.toList
  refine ⟨template, means, fun other isOther => means.eq_of_means isOther, ?_⟩
  intro kept
  rw [outcome_expand, expansion_eq means kept]
  refine ⟨?replaces, ?fails, ?names⟩
  case replaces =>
    intro content
    simp only [mapError_eq_ok_iff, map_eq_ok_iff, mapM_eq_ok_iff, TemplatePart.content_eq_ok_iff,
      @eq_comm _ content]
  case fails =>
    simp only [mapError_eq_error_iff, map_eq_error_iff, mapM_eq_error_iff,
      ← exists_failFirst_content_iff]
    constructor
    · rintro ⟨_, name, fails, _⟩
      exact ⟨name, fails⟩
    · rintro ⟨name, fails⟩
      exact ⟨_, name, fails, rfl⟩
  case names =>
    intro error
    simp only [mapError_eq_error_iff, map_eq_error_iff, mapM_eq_error_iff, failFirst_content_iff]
    constructor
    · rintro ⟨name, ⟨before, after, split, gives, isUnset⟩, isError⟩
      exact ⟨before, name, after, split, gives, isUnset, isError⟩
    · rintro ⟨before, name, after, split, gives, isUnset, isError⟩
      exact ⟨name, ⟨before, after, split, gives, isUnset⟩, isError⟩

/-- The dollar sign at the end begins nothing, and the default of the reference is put in. -/
theorem expand_replaces_only_references_before_last_dollar :
    let world : Surroundings Id :=
      ⟨fun _ => none, "/home", fun _ => .missing, .empty, fun _ _ => .ok ()⟩
    ∃ template, Template.Means "$\x7bA:-none\x7d$".toList template ∧ template.KeepsDollars ∧
      outcome (expand world "highlight.theme_dir" "$\x7bA:-none\x7d$") = .ok "none$" := by
  intro world
  have isName : TemplatePart.IsName "A" := ⟨by decide, by simp⟩
  have isReference : (TemplatePart.reference "A" (some "none")).IsReference :=
    .optional isName (by decide)
  have notBegun : ¬ Template.BeginsReference ['$'] := by
    intro begins
    obtain ⟨_, starts⟩ := begins.exists_eq
    cases starts
  have means : Template.Means "$\x7bA:-none\x7d$".toList
      [.reference "A" (some "none"), .character '$'] :=
    .reference isReference (.character notBegun .nil)
  have keeps : Template.KeepsDollars [.reference "A" (some "none"), .character '$'] := by
    simp [Template.keepsDollars_cons, Template.keepsDollars_nil, Template.LeavesDollar.nothing]
  obtain ⟨template, _, unique, expands⟩ :=
    expand_replaces_only_references world "highlight.theme_dir" "$\x7bA:-none\x7d$"
  cases unique _ means
  obtain ⟨replaces, _, _⟩ := expands (Or.inr keeps)
  have gives : List.Forall₂ (TemplatePart.Gives world)
      [.reference "A" (some "none"), .character '$'] ["none".toList, ['$']] :=
    .cons (.default rfl) (.cons (.character '$') .nil)
  exact ⟨_, means, keeps, (replaces "none$").2 ⟨_, gives, rfl⟩⟩

/-- The first dollar sign means itself, but it is taken for the start of a name. -/
theorem expand_replaces_name_without_braces :
    let world : Surroundings Id :=
      ⟨fun _ => some "x", "/home", fun _ => .missing, .empty, fun _ _ => .ok ()⟩
    let template : Template :=
      [.character '$', .character 'A', .character ' ', .reference "A" none]
    Template.Means "$A $\x7bA\x7d".toList template ∧
      (∃ contents, List.Forall₂ (TemplatePart.Gives world) template contents ∧
        String.ofList contents.flatten = "$A x") ∧
      outcome (expand world "highlight.themes" "$A $\x7bA\x7d") = .ok "x x" := by
  intro world template
  have isName : TemplatePart.IsName "A" := ⟨by decide, by simp⟩
  have notBegun : ∀ {c d : Char} {rest : List Char}, c ≠ '$' ∨ d ≠ '\x7b' →
      ¬ Template.BeginsReference (c :: d :: rest) := by
    intro c d rest different begins
    obtain ⟨more, starts⟩ := begins.exists_eq
    cases starts
    simp at different
  have nameEnds : Template.isNameChar 'A' = true ∧ Template.isNameChar ' ' = false := by
    simp only [Template.isNameChar, Text.isAlphanumeric, Text.inRanges_eq_any_toList]
    decide +kernel
  have isReference : (TemplatePart.reference "A" none).IsReference := .required isName
  have reads : Template.read "$A $\x7bA\x7d".toList =
      [.reference "A" none, .character ' ', .reference "A" none] := by
    change Template.read
      ('$' :: 'A' :: ' ' :: ((TemplatePart.reference "A" none).written ++ [])) = _
    rw [Template.read_bare (by simp) (by simp), List.takeWhile_cons_of_pos nameEnds.1,
      List.takeWhile_cons_of_neg (by simp [nameEnds.2]), List.dropWhile_cons_of_pos nameEnds.1,
      List.dropWhile_cons_of_neg (by simp [nameEnds.2])]
    change .reference "A" none :: Template.read _ = _
    rw [Template.read_of_ne (by decide), Template.read_written isReference, Template.read]
  refine ⟨?_, ?_, ?_⟩
  · exact .character (notBegun (by decide)) (.character (notBegun (by decide))
      (.character (notBegun (by decide)) (.reference isReference .nil)))
  · have gives : List.Forall₂ (TemplatePart.Gives world) template
        [['$'], ['A'], [' '], "x".toList] :=
      .cons (.character '$') (.cons (.character 'A') (.cons (.character ' ')
        (.cons (.value rfl) .nil)))
    exact ⟨_, gives, rfl⟩
  · rw [outcome_expand, expansion, Template.expand, if_pos (by decide), reads]
    rfl

end Settings

end Listings

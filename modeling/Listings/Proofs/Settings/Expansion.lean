/-
This file says what a text comes to once the values of variables are put in.
-/

import Listings.Proofs.FirstError
import Listings.Proofs.Settings.Reading
import Listings.Settings.Load

namespace Listings

variable {world : Surroundings Id} {template : Template} {part : TemplatePart}

/-- What stands in the place of a part. -/
inductive TemplatePart.Gives (world : Surroundings Id) : TemplatePart → List Char → Prop where
  | character (c : Char) : Gives world (.character c) [c]
  | value {name value : String} {default : Option String}
      (isSet : (world.getVariable name).run = some value) :
      Gives world (.reference name default) value.toList
  | default {name default : String} (isUnset : (world.getVariable name).run = none) :
      Gives world (.reference name (some default)) default.toList

namespace TemplatePart

def content (world : Surroundings Id) : TemplatePart → Except String (List Char)
  | character c => .ok [c]
  | reference name default =>
      match (world.getVariable name).run.or default with
      | some content => .ok content.toList
      | none => .error name

theorem content_eq_ok_iff {result : List Char} :
    part.content world = .ok result ↔ part.Gives world result := by
  constructor
  · intro isContent
    cases part with
    | character c =>
        cases isContent
        exact .character c
    | reference name default =>
        rw [content] at isContent
        cases found : (world.getVariable name).run with
        | some value =>
            rw [found] at isContent
            cases isContent
            exact .value found
        | none =>
            rw [found] at isContent
            cases default with
            | some default =>
                cases isContent
                exact .default found
            | none => contradiction
  · intro gives
    cases gives with
    | character c => rfl
    | value isSet => rw [content, isSet, Option.some_or]
    | default isUnset => rw [content, isUnset, Option.none_or]

theorem content_eq_error_iff {name : String} :
    part.content world = .error name ↔
      part = .reference name none ∧ (world.getVariable name).run = none := by
  constructor
  · intro fails
    cases part with
    | character c => contradiction
    | reference other default =>
        rw [content] at fails
        cases found : (world.getVariable other).run with
        | some value =>
            rw [found] at fails
            contradiction
        | none =>
            rw [found] at fails
            cases default with
            | some default => contradiction
            | none =>
                cases fails
                exact ⟨rfl, found⟩
  · rintro ⟨rfl, isUnset⟩
    rw [content, isUnset, Option.none_or]

end TemplatePart

namespace Settings

variable {α β : Type} {text : String}

theorem run_bind {ε : Type} (first : ExceptT ε Id α) (next : α → ExceptT ε Id β) :
    Id.run (first >>= next).run = Id.run first.run >>= fun value => Id.run (next value).run := by
  change Id.run (ExceptT.bindCont next (Id.run first.run)) = _
  cases Id.run first.run <;> rfl

theorem run_fill (template : Template) :
    Id.run (Template.fill world.getVariable template).run =
      (template.mapM (TemplatePart.content world)).map List.flatten := by
  induction template with
  | nil => rfl
  | cons part rest inductionHypothesis =>
      rw [List.mapM_cons]
      cases part with
      | character c =>
          rw [Template.fill, run_bind, inductionHypothesis]
          cases rest.mapM (TemplatePart.content world) <;> rfl
      | reference name default =>
          change Id.run (match (world.getVariable name).run.or default with
            | some content => _
            | none => _ : ExceptT String Id (List Char)).run = _
          rw [TemplatePart.content]
          cases (world.getVariable name).run.or default with
          | none => rfl
          | some content =>
              dsimp only
              rw [run_bind, inductionHypothesis]
              cases rest.mapM (TemplatePart.content world) <;> rfl

/-- A text with the values of variables put in, or the name of one that has none. -/
def expansion (world : Surroundings Id) (text : String) : Except String String :=
  Id.run (Template.expand world.getVariable text).run

/-- A text without an opening `$` and brace stays as it is. -/
theorem expansion_eq_self (unopened : ¬ ['$', '\x7b'] <:+: text.toList) :
    expansion world text = .ok text := by
  rw [expansion, Template.expand, if_neg (mt Text.isSome_cut?_iff.1 unopened)]
  rfl

/-- All other texts are read and filled. -/
theorem expansion_of_opens (opens : ['$', '\x7b'] <:+: text.toList) :
    expansion world text =
      ((Template.read text.toList).mapM (TemplatePart.content world)).map fun contents =>
        String.ofList contents.flatten := by
  rw [expansion, Template.expand, if_pos (Text.isSome_cut?_iff.2 opens), map_eq_pure_bind,
    run_bind, run_fill]
  cases (Template.read text.toList).mapM (TemplatePart.content world) <;> rfl

theorem expansion_defaultThemes :
    ∀ theme ∈ Configuration.defaultThemes, expansion world theme = .ok theme := by
  have uncut : ∀ theme ∈ Configuration.defaultThemes,
      (Text.cut? ['$', '\x7b'] theme.toList).isSome = false := by decide
  intro theme member
  refine expansion_eq_self fun opens => ?_
  rw [← Text.isSome_cut?_iff, uncut theme member] at opens
  exact Bool.false_ne_true opens

theorem failFirst_content_iff {name : String} :
    FailFirst (TemplatePart.content world) template name ↔
      ∃ before after, template = before ++ .reference name none :: after ∧
        (∀ part ∈ before, ∃ content, part.Gives world content) ∧
        (world.getVariable name).run = none := by
  simp only [FailFirst, Succeed, TemplatePart.content_eq_ok_iff, TemplatePart.content_eq_error_iff]
  constructor
  · rintro ⟨before, _, after, split, gives, rfl, isUnset⟩
    exact ⟨before, after, split, gives, isUnset⟩
  · rintro ⟨before, after, split, gives, isUnset⟩
    exact ⟨before, _, after, split, gives, rfl, isUnset⟩

/-- A text comes to another one. Only a text that opens a brace behind some dollar sign is read at
all. -/
inductive Expands (world : Surroundings Id) (text : String) : String → Prop where
  | same (unopened : ¬ ['$', '\x7b'] <:+: text.toList) : Expands world text text
  | filled {template : Template} {contents : List (List Char)}
      (opens : ['$', '\x7b'] <:+: text.toList) (reads : Template.Reads text.toList template)
      (gives : List.Forall₂ (TemplatePart.Gives world) template contents) :
      Expands world text (String.ofList contents.flatten)

/-- The text refers to a variable that has no value, after others that have one. -/
inductive Lacks (world : Surroundings Id) (text : String) : String → Prop where
  | variable {before after : Template} {name : String} (opens : ['$', '\x7b'] <:+: text.toList)
      (reads : Template.Reads text.toList (before ++ .reference name none :: after))
      (gives : ∀ part ∈ before, ∃ content, part.Gives world content)
      (isUnset : (world.getVariable name).run = none) : Lacks world text name

theorem expansion_eq_ok_iff {content : String} :
    expansion world text = .ok content ↔ Expands world text content := by
  by_cases opens : ['$', '\x7b'] <:+: text.toList
  · rw [expansion_of_opens opens]
    simp only [map_eq_ok_iff, mapM_eq_ok_iff, TemplatePart.content_eq_ok_iff]
    constructor
    · rintro ⟨contents, gives, rfl⟩
      exact .filled opens (Template.reads_read text.toList) gives
    · intro expands
      cases expands with
      | same unopened => contradiction
      | filled _ reads gives =>
          rw [← reads.read_eq] at gives
          exact ⟨_, gives, rfl⟩
  · rw [expansion_eq_self opens, Except.ok.injEq]
    constructor
    · rintro rfl
      exact .same opens
    · intro expands
      cases expands with
      | same _ => rfl
      | filled stillOpens _ _ => contradiction

theorem expansion_eq_error_iff {name : String} :
    expansion world text = .error name ↔ Lacks world text name := by
  by_cases opens : ['$', '\x7b'] <:+: text.toList
  · rw [expansion_of_opens opens, map_eq_error_iff, mapM_eq_error_iff, failFirst_content_iff]
    constructor
    · rintro ⟨before, after, split, gives, isUnset⟩
      have reads := Template.reads_read text.toList
      rw [split] at reads
      exact .variable opens reads gives isUnset
    · rintro ⟨_, reads, gives, isUnset⟩
      exact ⟨_, _, reads.read_eq, gives, isUnset⟩
  · rw [expansion_eq_self opens]
    refine iff_of_false nofun ?_
    rintro ⟨stillOpens, _⟩
    contradiction

/-- A text without an opening `$` and brace is not read at all, so its dollar signs may stand before
anything. -/
theorem expansion_eq (means : Template.Means text.toList template)
    (kept : ¬ ['$', '\x7b'] <:+: text.toList ∨ template.KeepsDollars) :
    expansion world text =
      (template.mapM (TemplatePart.content world)).map fun contents =>
        String.ofList contents.flatten := by
  by_cases opens : ['$', '\x7b'] <:+: text.toList
  · have reads := (Template.read_eq_iff means).2 (kept.resolve_left (not_not_intro opens))
    rw [expansion_of_opens opens, reads]
  · have copied : (text.toList.map TemplatePart.character).mapM (TemplatePart.content world) =
        .ok (text.toList.map fun c => [c]) := by
      rw [mapM_eq_ok_iff, List.forall₂_map_left_iff, List.forall₂_map_right_iff]
      exact List.forall₂_same.2 fun c _ => rfl
    have flattened : (text.toList.map fun c => [c]).flatten = text.toList := by
      rw [← List.flatMap_def]
      exact List.flatMap_singleton' text.toList
    rw [expansion_eq_self opens, means.eq_map opens, copied]
    change _ = Except.ok (String.ofList (text.toList.map fun c => [c]).flatten)
    rw [flattened, String.ofList_toList]

/-- A text comes to what it means, unless it opens a brace behind some dollar sign and copies
another one that could begin something. -/
theorem expands_iff_of_means (means : Template.Means text.toList template)
    (kept : ¬ ['$', '\x7b'] <:+: text.toList ∨ template.KeepsDollars) {content : String} :
    Expands world text content ↔
      ∃ contents, List.Forall₂ (TemplatePart.Gives world) template contents ∧
        content = String.ofList contents.flatten := by
  rw [← expansion_eq_ok_iff, expansion_eq means kept]
  simp only [map_eq_ok_iff, mapM_eq_ok_iff, TemplatePart.content_eq_ok_iff, @eq_comm _ content]

end Settings

end Listings

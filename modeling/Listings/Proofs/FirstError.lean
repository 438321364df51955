/-
This file says when computations that may fail succeed one after the other, and which error they
fail with otherwise.
-/

import Mathlib.Data.List.Forall2

namespace Listings

variable {ε α β : Type}

theorem bind_eq_ok_iff {first : Except ε α} {next : α → Except ε β} {result : β} :
    (first >>= next) = .ok result ↔ ∃ value, first = .ok value ∧ next value = .ok result := by
  cases first with
  | error error => exact iff_of_false nofun nofun
  | ok value =>
      constructor
      · intro done
        exact ⟨value, rfl, done⟩
      · rintro ⟨_, same, done⟩
        cases same
        exact done

theorem bind_eq_error_iff {first : Except ε α} {next : α → Except ε β} {error : ε} :
    (first >>= next) = .error error ↔
      first = .error error ∨ ∃ value, first = .ok value ∧ next value = .error error := by
  cases first with
  | error earlier =>
      constructor
      · intro failed
        cases failed
        exact Or.inl rfl
      · rintro (failed | ⟨_, same, _⟩)
        · cases failed
          rfl
        · contradiction
  | ok value =>
      constructor
      · intro failed
        exact Or.inr ⟨value, rfl, failed⟩
      · rintro (same | ⟨_, same, failed⟩)
        · contradiction
        · cases same
          exact failed

theorem map_eq_ok_iff {outcome : Except ε α} {next : α → β} {result : β} :
    outcome.map next = .ok result ↔ ∃ value, outcome = .ok value ∧ next value = result := by
  cases outcome with
  | error error => exact iff_of_false nofun nofun
  | ok value => simp [Except.map]

theorem map_eq_error_iff {outcome : Except ε α} {next : α → β} {error : ε} :
    outcome.map next = .error error ↔ outcome = .error error := by
  cases outcome with
  | error earlier => exact ⟨fun same => congrArg _ (Except.error.inj same),
      fun same => congrArg _ (Except.error.inj same)⟩
  | ok value => exact iff_of_false nofun nofun

theorem exists_map_eq_ok_iff {outcome : Except ε α} {next : α → β} :
    (∃ result, outcome.map next = .ok result) ↔ ∃ value, outcome = .ok value := by
  cases outcome with
  | error error => exact iff_of_false nofun nofun
  | ok value => exact iff_of_true ⟨_, rfl⟩ ⟨_, rfl⟩

theorem exists_bind_pure_eq_ok_iff {outcome : Except ε α} {next : α → β} :
    (∃ result, (outcome >>= fun value => pure (next value)) = .ok result) ↔
      ∃ value, outcome = .ok value :=
  exists_map_eq_ok_iff

/-- Every item succeeds. -/
def Succeed (step : α → Except ε β) (items : List α) : Prop :=
  ∀ item ∈ items, ∃ result, step item = .ok result

/-- One item fails with the error, and all before it succeed. -/
def FailFirst (step : α → Except ε β) (items : List α) (error : ε) : Prop :=
  ∃ before item after, items = before ++ item :: after ∧ Succeed step before ∧
    step item = .error error

variable {step : α → Except ε β} {item : α} {items : List α} {error : ε}

theorem succeed_cons :
    Succeed step (item :: items) ↔ (∃ result, step item = .ok result) ∧ Succeed step items :=
  List.forall_mem_cons

theorem not_failFirst_nil : ¬ FailFirst step [] error := by
  rintro ⟨before, item, after, split, _⟩
  cases before <;> contradiction

theorem failFirst_cons :
    FailFirst step (item :: items) error ↔
      step item = .error error ∨
        (∃ result, step item = .ok result) ∧ FailFirst step items error := by
  constructor
  · rintro ⟨before, failing, after, split, succeed, fails⟩
    cases before with
    | nil =>
        cases split
        exact Or.inl fails
    | cons first before =>
        cases split
        rw [succeed_cons] at succeed
        exact Or.inr ⟨succeed.1, before, failing, after, rfl, succeed.2, fails⟩
  · rintro (fails | ⟨succeeds, before, failing, after, rfl, succeed, fails⟩)
    · exact ⟨[], item, items, rfl, fun _ member => absurd member List.not_mem_nil, fails⟩
    · exact ⟨item :: before, failing, after, rfl, succeed_cons.2 ⟨succeeds, succeed⟩, fails⟩

theorem exists_failFirst_iff :
    (∃ error, FailFirst step items error) ↔ ∃ item ∈ items, ∃ error, step item = .error error := by
  induction items with
  | nil => exact iff_of_false (fun ⟨_, fails⟩ => not_failFirst_nil fails) nofun
  | cons item rest inductionHypothesis =>
      simp only [failFirst_cons]
      rw [List.exists_mem_cons_iff, ← inductionHypothesis]
      cases step item with
      | error error => simp
      | ok result => simp

theorem not_failFirst_of_succeed (succeed : Succeed step items) : ¬ FailFirst step items error := by
  rintro ⟨before, item, after, rfl, _, fails⟩
  obtain ⟨result, succeeds⟩ := succeed item (by simp)
  rw [fails] at succeeds
  contradiction

theorem mapM_eq_ok_iff {results : List β} :
    items.mapM step = .ok results ↔
      List.Forall₂ (fun item result => step item = .ok result) items results := by
  induction items generalizing results with
  | nil =>
      rw [List.forall₂_nil_left_iff]
      exact ⟨fun done => (Except.ok.inj done).symm, fun empty => congrArg Except.ok empty.symm⟩
  | cons item rest inductionHypothesis =>
      rw [List.mapM_cons, bind_eq_ok_iff, List.forall₂_cons_left_iff]
      refine exists_congr fun result => ?_
      rw [bind_eq_ok_iff]
      constructor
      · rintro ⟨first, others, rest, done⟩
        exact ⟨others, first, inductionHypothesis.1 rest, (Except.ok.inj done).symm⟩
      · rintro ⟨others, first, rest, rfl⟩
        exact ⟨first, others, inductionHypothesis.2 rest, rfl⟩

/-- The error of the whole is that of the first item that fails. -/
theorem mapM_eq_error_iff : items.mapM step = .error error ↔ FailFirst step items error := by
  induction items with
  | nil => exact iff_of_false nofun not_failFirst_nil
  | cons item rest inductionHypothesis =>
      rw [List.mapM_cons, bind_eq_error_iff, failFirst_cons, ← inductionHypothesis,
        exists_and_right.symm]
      refine or_congr_right (exists_congr fun result => and_congr_right fun _ => ?_)
      rw [bind_eq_error_iff]
      exact or_iff_left nofun

theorem exists_mapM_eq_ok_iff :
    (∃ results, items.mapM step = .ok results) ↔ Succeed step items := by
  induction items with
  | nil => exact iff_of_true ⟨[], rfl⟩ fun _ member => absurd member List.not_mem_nil
  | cons item rest inductionHypothesis =>
      rw [succeed_cons, ← inductionHypothesis, List.mapM_cons]
      constructor
      · rintro ⟨results, done⟩
        obtain ⟨result, first, further⟩ := bind_eq_ok_iff.1 done
        obtain ⟨others, rest, _⟩ := bind_eq_ok_iff.1 further
        exact ⟨⟨result, first⟩, others, rest⟩
      · rintro ⟨⟨result, first⟩, others, rest⟩
        exact ⟨result :: others, bind_eq_ok_iff.2 ⟨result, first,
          bind_eq_ok_iff.2 ⟨others, rest, rfl⟩⟩⟩

theorem exists_getElem?_of_forall₂ {relates : α → β → Prop} {results : List β}
    (pairs : List.Forall₂ relates items results) {index : Nat} (isItem : items[index]? = some item) :
    ∃ result, results[index]? = some result ∧ relates item result := by
  obtain ⟨within, rfl⟩ := List.getElem?_eq_some_iff.1 isItem
  have inResults : index < results.length := pairs.length_eq ▸ within
  exact ⟨results[index], List.getElem?_eq_getElem inResults, pairs.get within inResults⟩

theorem exists_forall₂_map_iff {γ : Type} {relates : α → β → Prop} {put : β → γ}
    {results : List γ} :
    (∃ values, List.Forall₂ relates items values ∧ values.map put = results) ↔
      List.Forall₂ (fun item result => ∃ value, relates item value ∧ put value = result)
        items results := by
  constructor
  · rintro ⟨values, related, rfl⟩
    rw [List.forall₂_map_right_iff]
    exact related.imp fun item value each => ⟨value, each, rfl⟩
  · intro pairs
    induction pairs with
    | nil => exact ⟨[], List.Forall₂.nil, rfl⟩
    | cons pair _ inductionHypothesis =>
        obtain ⟨value, related, rfl⟩ := pair
        obtain ⟨values, others, rfl⟩ := inductionHypothesis
        exact ⟨value :: values, List.Forall₂.cons related others, rfl⟩

theorem mem_of_mapM_ok {results : List β} (succeeds : items.mapM step = .ok results) :
    ∀ result ∈ results, ∃ item ∈ items, step item = .ok result := by
  have pairs := mapM_eq_ok_iff.1 succeeds
  clear succeeds
  induction pairs with
  | nil =>
      intro result member
      contradiction
  | cons first _ inductionHypothesis =>
      intro result member
      rcases List.mem_cons.1 member with rfl | inOthers
      · exact ⟨_, List.mem_cons_self, first⟩
      · obtain ⟨item, inItems, made⟩ := inductionHypothesis result inOthers
        exact ⟨item, List.mem_cons_of_mem _ inItems, made⟩

theorem option_mapM_eq_ok_iff {given : Option α} {result : Option β} :
    given.mapM step = .ok result ↔
      match given with
      | some item => ∃ value, step item = .ok value ∧ result = some value
      | none => result = none := by
  cases given with
  | none => exact Except.ok.injEq none result ▸ eq_comm
  | some item =>
      rw [Option.mapM_some]
      dsimp only
      cases step item with
      | error error => exact iff_of_false nofun fun ⟨_, fails, _⟩ => nomatch fails
      | ok value => simp [Functor.map, Except.map, @eq_comm _ result]

theorem option_mapM_eq_error_iff {given : Option α} :
    given.mapM step = .error error ↔ ∃ item, given = some item ∧ step item = .error error := by
  cases given with
  | none => exact iff_of_false nofun nofun
  | some item =>
      rw [Option.mapM_some]
      exact map_eq_error_iff.trans (by simp)

section MapError

variable {δ : Type} {wrap : ε → δ}

theorem mapError_eq_ok_iff {outcome : Except ε α} {value : α} :
    outcome.mapError wrap = .ok value ↔ outcome = .ok value := by
  cases outcome with
  | error error => exact iff_of_false nofun nofun
  | ok found => simp only [Except.mapError, Except.ok.injEq]

theorem mapError_eq_error_iff {outcome : Except ε α} {wrapped : δ} :
    outcome.mapError wrap = .error wrapped ↔
      ∃ error, outcome = .error error ∧ wrapped = wrap error := by
  cases outcome with
  | error error => simp [Except.mapError, @eq_comm _ wrapped]
  | ok value => exact iff_of_false nofun nofun

theorem succeed_mapError :
    Succeed (fun item => (step item).mapError wrap) items ↔ Succeed step items := by
  simp only [Succeed, mapError_eq_ok_iff]

/-- Errors that are wrapped come in the same order. -/
theorem failFirst_mapError {wrapped : δ} :
    FailFirst (fun item => (step item).mapError wrap) items wrapped ↔
      ∃ error, FailFirst step items error ∧ wrapped = wrap error := by
  simp only [FailFirst, succeed_mapError, mapError_eq_error_iff]
  constructor
  · intro ⟨before, item, after, split, succeed, error, fails, same⟩
    exact ⟨error, ⟨before, item, after, split, succeed, fails⟩, same⟩
  · intro ⟨error, ⟨before, item, after, split, succeed, fails⟩, same⟩
    exact ⟨before, item, after, split, succeed, error, fails, same⟩

end MapError

section Zip

variable {γ δ : Type} {others : List γ} {put : γ → β → δ}

/-- Two passes over the items, put together item by item, are one pass. -/
theorem exists_mapM_zip_eq_ok_iff {first : α → Except ε γ} {results : List δ} :
    (∃ values, items.mapM first = .ok values ∧
      (items.zip values).mapM (fun entry => do
        let value ← step entry.1
        pure (put entry.2 value)) = .ok results) ↔
    List.Forall₂ (fun item result => ∃ other value,
      first item = .ok other ∧ step item = .ok value ∧ put other value = result) items results := by
  simp only [mapM_eq_ok_iff]
  induction items generalizing results with
  | nil =>
      constructor
      · rintro ⟨values, _, seconds⟩
        rw [List.zip_nil_left, List.forall₂_nil_left_iff] at seconds
        exact seconds ▸ List.Forall₂.nil
      · intro pairs
        exact ⟨[], List.Forall₂.nil, List.forall₂_nil_left_iff.1 pairs ▸ List.Forall₂.nil⟩
  | cons item rest inductionHypothesis =>
      constructor
      · rintro ⟨values, firsts, seconds⟩
        obtain ⟨other, others, found, more, rfl⟩ := List.forall₂_cons_left_iff.1 firsts
        rw [List.zip_cons_cons] at seconds
        obtain ⟨result, further, made, remaining, rfl⟩ := List.forall₂_cons_left_iff.1 seconds
        obtain ⟨value, done, same⟩ := bind_eq_ok_iff.1 made
        exact List.Forall₂.cons ⟨other, value, found, done, Except.ok.inj same⟩
          (inductionHypothesis.1 ⟨others, more, remaining⟩)
      · intro pairs
        obtain ⟨_, further, ⟨other, value, found, done, rfl⟩, remaining, rfl⟩ :=
          List.forall₂_cons_left_iff.1 pairs
        obtain ⟨others, firsts, seconds⟩ := inductionHypothesis.2 remaining
        exact ⟨other :: others, List.Forall₂.cons found firsts,
          List.Forall₂.cons (bind_eq_ok_iff.2 ⟨value, done, rfl⟩) seconds⟩

end Zip

end Listings

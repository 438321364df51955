/-
This file shows that settings are loaded from a memory as from a world that stays as it is.
-/

import Listings.Files.Tree
import Listings.Proofs.Settings.FromFile

namespace Listings

variable {ε α β : Type}

/-- What a memory shows while nothing is written to it. -/
def FileTree.Memory.still (memory : FileTree.Memory) : Surroundings Id where
  getVariable name := memory.environment.lookup name
  currentFolder := memory.currentFolder
  look := memory.look
  standardInput := memory.input
  write path content := (memory.write path content).1

namespace Settings

open FileTree

/-- An action leaves a memory as it is and comes to the same as another in the still world. -/
def OnlyReads (memory : Memory) (action : ExceptT ε (StateM Memory) α) (still : ExceptT ε Id α) :
    Prop :=
  action.run.run memory = (still.run, memory)

namespace OnlyReads

variable {memory : Memory}

theorem pure (value : α) :
    OnlyReads memory (Pure.pure value : ExceptT ε (StateM Memory) α) (Pure.pure value) := rfl

theorem throw (error : ε) :
    OnlyReads memory (MonadExcept.throw error : ExceptT ε (StateM Memory) α)
      (MonadExcept.throw error) := rfl

theorem lift {action : StateM Memory α} {value : Id α}
    (reads : action.run memory = (value, memory)) :
    OnlyReads memory (ExceptT.lift action : ExceptT ε (StateM Memory) α) (ExceptT.lift value) := by
  change (Except.ok (action.run memory).1, (action.run memory).2) = _
  rw [reads]
  rfl

theorem bind {first : ExceptT ε (StateM Memory) α} {stillFirst : ExceptT ε Id α}
    {next : α → ExceptT ε (StateM Memory) β} {stillNext : α → ExceptT ε Id β}
    (readsFirst : OnlyReads memory first stillFirst)
    (readsNext : ∀ value, OnlyReads memory (next value) (stillNext value)) :
    OnlyReads memory (first >>= next) (stillFirst >>= stillNext) := by
  unfold OnlyReads at *
  change ExceptT.bindCont next (first.run.run memory).1 (first.run.run memory).2 =
    (ExceptT.bindCont stillNext stillFirst.run, memory)
  rw [readsFirst]
  dsimp only
  cases stillFirst.run with
  | error error => rfl
  | ok value => exact readsNext value

theorem mapM {step : α → ExceptT ε (StateM Memory) β} {stillStep : α → ExceptT ε Id β}
    (reads : ∀ item, OnlyReads memory (step item) (stillStep item)) (items : List α) :
    OnlyReads memory (items.mapM step) (items.mapM stillStep) := by
  induction items with
  | nil => exact pure []
  | cons item rest inductionHypothesis =>
      rw [List.mapM_cons, List.mapM_cons]
      exact bind (reads item) fun value => bind inductionHypothesis fun values => pure _

theorem option_mapM {step : α → ExceptT ε (StateM Memory) β} {stillStep : α → ExceptT ε Id β}
    (reads : ∀ item, OnlyReads memory (step item) (stillStep item)) (given : Option α) :
    OnlyReads memory (given.mapM step) (given.mapM stillStep) := by
  cases given with
  | none => exact pure none
  | some item => exact bind (reads item) fun value => pure (some value)

end OnlyReads

variable (memory : Memory)

theorem onlyReads_fill (template : Template) :
    OnlyReads memory (Template.fill surroundings.getVariable template)
      (Template.fill memory.still.getVariable template) := by
  induction template with
  | nil => exact .pure []
  | cons part rest inductionHypothesis =>
      cases part with
      | character c => exact .bind inductionHypothesis fun value => .pure _
      | reference name default =>
          refine .bind (.lift rfl) fun value => ?_
          cases value.or default with
          | some content => exact .bind inductionHypothesis fun value => .pure _
          | none => exact .throw name

theorem onlyReads_expand (field text : String) :
    OnlyReads memory (expand surroundings field text) (expand memory.still field text) := by
  have template : OnlyReads memory (Template.expand surroundings.getVariable text)
      (Template.expand memory.still.getVariable text) := by
    unfold Template.expand
    cases Text.cut? ['$', '\x7b'] text.toList with
    | none => exact .pure text
    | some sides =>
        exact .bind (onlyReads_fill memory (Template.read text.toList)) fun value => .pure _
  unfold OnlyReads at *
  have both := congrArg (fun result => (result.1.mapError (SettingsError.unset field), result.2))
    template
  exact both

theorem onlyReads_expandAll (settings : Settings) :
    OnlyReads memory (expandAll surroundings settings) (expandAll memory.still settings) :=
  .bind (.mapM (onlyReads_expand memory _) _) fun _ =>
    .bind (.option_mapM (onlyReads_expand memory _) _) fun _ => .pure _

theorem onlyReads_checked (settings : Settings) :
    OnlyReads memory (checked settings) (checked settings) := by
  unfold checked
  cases settings.fault? with
  | some fault => exact .throw _
  | none => exact .pure settings

theorem onlyReads_ofFile (path : String) :
    OnlyReads memory (ofFile surroundings path) (ofFile memory.still path) := by
  refine .bind (.lift rfl) fun entry => ?_
  cases entry.text with
  | error error => exact .throw _
  | ok document =>
      dsimp only
      cases read? document with
      | none => exact .throw _
      | some settings =>
          exact .bind (onlyReads_expandAll memory settings) fun expanded =>
            onlyReads_checked memory _

theorem run_discover (start : String) :
    (discover surroundings start).run memory = (discover memory.still start, memory) := by
  unfold discover
  dsimp only
  induction (Path.ancestors start.toList).map fun folder =>
      String.ofList (Path.join folder fileName.toList) with
  | nil => rfl
  | cons path rest inductionHypothesis =>
      rw [List.findM?, List.findM?]
      change (match (memory.look path).isFile with
          | true => _
          | false => List.findM? _ rest : StateM Memory (Option String)).run memory =
        (match (memory.look path).isFile with
          | true => _
          | false => (List.findM? _ rest : Id (Option String)), memory)
      cases (memory.look path).isFile with
      | true => rfl
      | false => exact inductionHypothesis

theorem onlyReads_choose (path : Option String) :
    OnlyReads memory (choose surroundings path) (choose memory.still path) := by
  cases path with
  | none => exact .bind (.lift rfl) fun folder => .lift (run_discover memory folder)
  | some path =>
      refine .bind (.lift rfl) fun entry => ?_
      cases entry.isThere with
      | true => exact .pure _
      | false => exact .throw _

theorem onlyReads_load (path : Option String) (overrides : Option Overrides) :
    OnlyReads memory (load surroundings path overrides) (load memory.still path overrides) := by
  refine .bind (onlyReads_choose memory path) fun chosen => ?_
  cases overrides with
  | none =>
      cases chosen with
      | none => exact .bind (.pure ({} : Settings)) .pure
      | some file => exact .bind (onlyReads_ofFile memory file) .pure
  | some given =>
      cases chosen with
      | none => exact .bind (.pure ({} : Settings)) fun settings => onlyReads_checked memory _
      | some file =>
          exact .bind (onlyReads_ofFile memory file) fun settings => onlyReads_checked memory _

/-- Loading settings from a memory leaves it as it is, and they are those of the still world. -/
theorem run_load (path : Option String) (overrides : Option Overrides) :
    (load surroundings path overrides).run.run memory =
      (outcome (load memory.still path overrides), memory) :=
  onlyReads_load memory path overrides

end Settings

end Listings

/-
This file follows the formatter through its makers and edits: in which order they run, what each of
them finds and what it leaves behind.
-/

import Listings.Layout

namespace Listings

open Markup (Element)

variable {σ : Type}

namespace Layout

/-- A root and the state that goes with it, before an edit or after it. -/
abbrev Stage (σ : Type) := Element × σ

def Stage.edited (stage : Stage σ) (edit : Edit σ) : Stage σ := edit stage.1 stage.2

/-- The way of one root through all edits. -/
structure Pass (σ : Type) where
  start : Stage σ
  edits : List (Edit σ)

namespace Pass

/-- What the first so many edits make of the root and the state. -/
def stage (pass : Pass σ) (done : Nat) : Stage σ :=
  (pass.edits.take done).foldl Stage.edited pass.start

/-- What all edits make of them. -/
def last (pass : Pass σ) : Stage σ := pass.edits.foldl Stage.edited pass.start

end Pass

/-- The makers run one after the other. -/
def makeEdits : List (EditMaker σ) → σ → List (Edit σ) × σ
  | [], state => ([], state)
  | maker :: rest, state =>
      let made := maker state
      let others := makeEdits rest made.2
      (made.1 :: others.1, others.2)

/-- The roots are laid out in the order of their blocks, each in the state that the pass of the
one before left. -/
def passes (directive : Directive) (edits : List (Edit σ)) :
    List TokenBlock → σ → List (Pass σ) × σ
  | [], state => ([], state)
  | tokens :: rest, state =>
      let pass : Pass σ := ⟨(root directive tokens, state), edits⟩
      let others := passes directive edits rest pass.last.2
      (pass :: others.1, others.2)

/-- What a root is in the end: its scopes go only after all edits. -/
def settle (directive : Directive) (root : Element) : Element :=
  if directive.preservesScopes then root else root.stripScopes

/-- One run of the formatter, with the edits that were made for it. -/
structure Course (σ : Type) where
  edits : List (Edit σ)
  passes : List (Pass σ)

def Course.roots (directive : Directive) (course : Course σ) : List Element :=
  course.passes.map fun pass => settle directive pass.last.1

/-- Every run has edits made for it alone, and the next one starts in the state that it left. -/
def courses (directive : Directive) (makers : List (EditMaker σ)) :
    List (List TokenBlock) → σ → List (Course σ) × σ
  | [], state => ([], state)
  | blocks :: rest, state =>
      let made := makeEdits makers state
      let run := passes directive made.1 blocks made.2
      let others := courses directive makers rest run.2
      (⟨made.1, run.1⟩ :: others.1, others.2)

/-- What makers and edits do. -/
inductive Action where
  | made (step : Nat)
  /-- The edit is told by the place of its making among all actions. -/
  | edited (making : Nat) (before after : Element)

def Action.made? : Action → Option Nat
  | made step => some step
  | edited .. => none

/-- Every edit runs once, in the order in which they were made. -/
def Pass.actions (first : Nat) (pass : Pass σ) : List Action :=
  (List.range pass.edits.length).map fun step =>
    .edited (first + step) (pass.stage step).1 (pass.stage (step + 1)).1

/-- Every maker runs once, in order, and after all of them the edits run, root by root. -/
def Course.actions (first : Nat) (course : Course σ) : List Action :=
  (List.range course.edits.length).map .made ++ course.passes.flatMap (Pass.actions first)

end Layout

open Layout

/-- The edit, writing down what it does. -/
def Edit.recorded (making : Nat) (edit : Edit σ) : Edit (σ × List Action) := fun root state =>
  let edited := edit root state.1
  (edited.1, edited.2, state.2 ++ [.edited making root edited.1])

/-- The maker, writing down that it runs and what its edit does. -/
def EditMaker.recorded (step : Nat) (maker : EditMaker σ) : EditMaker (σ × List Action) :=
  fun state =>
    let made := maker state.1
    (made.1.recorded state.2.length, made.2, state.2 ++ [.made step])

namespace Layout

def recorded (makers : List (EditMaker σ)) : List (EditMaker (σ × List Action)) :=
  makers.zipIdx.map fun entry => entry.1.recorded entry.2

variable {directive : Directive}

theorem Pass.stage_of_length_le {pass : Pass σ} {done : Nat} (beyond : pass.edits.length ≤ done) :
    pass.stage done = pass.last := by
  rw [stage, List.take_of_length_le beyond, last]

theorem Pass.stage_succ {pass : Pass σ} {step : Nat} {edit : Edit σ}
    (found : pass.edits[step]? = some edit) :
    pass.stage (step + 1) = (pass.stage step).edited edit := by
  obtain ⟨within, rfl⟩ := List.getElem?_eq_some_iff.1 found
  rw [stage, List.take_succ_eq_append_getElem within, List.foldl_append]
  rfl

theorem mapM_cons_apply {α β : Type} (step : α → StateM σ β) (item : α) (rest : List α)
    (state : σ) :
    ((item :: rest).mapM step : StateM σ (List β)) state =
      ((step item state).1 :: ((rest.mapM step : StateM σ (List β)) (step item state).2).1,
        ((rest.mapM step : StateM σ (List β)) (step item state).2).2) := by
  rw [List.mapM_cons]
  rfl

theorem mapM_makers (makers : List (EditMaker σ)) (state : σ) :
    (makers.mapM id : StateM σ (List (Edit σ))) state = makeEdits makers state := by
  induction makers generalizing state with
  | nil => rfl
  | cons maker rest inductionHypothesis =>
      rw [mapM_cons_apply, inductionHypothesis]
      rfl

theorem foldlM_edits (edits : List (Edit σ)) (start : Stage σ) :
    (edits.foldlM (fun root edit => edit root) start.1 : StateM σ Element) start.2 =
      edits.foldl Stage.edited start := by
  induction edits generalizing start with
  | nil => rfl
  | cons edit rest inductionHypothesis =>
      rw [List.foldlM_cons]
      exact inductionHypothesis (start.edited edit)

/-- A root is settled after all edits, and settling it changes no state. -/
theorem finish_eq (edits : List (Edit σ)) (start : Element) (state : σ) :
    finish directive edits start state =
      (settle directive (Pass.last ⟨(start, state), edits⟩).1,
        (Pass.last ⟨(start, state), edits⟩).2) := by
  rw [Pass.last, ← foldlM_edits]
  rfl

theorem mapM_finish (edits : List (Edit σ)) (blocks : List TokenBlock) (state : σ) :
    (blocks.mapM fun tokens => finish directive edits (root directive tokens) :
      StateM σ (List Element)) state =
        ((passes directive edits blocks state).1.map fun pass => settle directive pass.last.1,
          (passes directive edits blocks state).2) := by
  induction blocks generalizing state with
  | nil => rfl
  | cons tokens rest inductionHypothesis =>
      rw [mapM_cons_apply, finish_eq, inductionHypothesis]
      rfl

/-- The formatter makes its edits and takes one root after the other through them. -/
theorem format_apply (makers : List (EditMaker σ)) (blocks : List TokenBlock) (state : σ) :
    format directive makers blocks state =
      (blocks.mapM fun tokens =>
        finish directive (makeEdits makers state).1 (root directive tokens) :
          StateM σ (List Element)) (makeEdits makers state).2 := by
  rw [← mapM_makers]
  rfl

theorem format_eq (makers : List (EditMaker σ)) (blocks : List TokenBlock) (state : σ) :
    let made := makeEdits makers state
    let run := passes directive made.1 blocks made.2
    format directive makers blocks state = (Course.roots directive ⟨made.1, run.1⟩, run.2) := by
  intro made run
  rw [format_apply, mapM_finish]
  rfl

theorem mapM_format (makers : List (EditMaker σ)) (calls : List (List TokenBlock)) (state : σ) :
    (calls.mapM (format directive makers) : StateM σ (List (List Element))) state =
      ((courses directive makers calls state).1.map (Course.roots directive),
        (courses directive makers calls state).2) := by
  induction calls generalizing state with
  | nil => rfl
  | cons blocks rest inductionHypothesis =>
      rw [mapM_cons_apply, format_eq, inductionHypothesis]
      rfl

theorem length_makeEdits (makers : List (EditMaker σ)) (state : σ) :
    (makeEdits makers state).1.length = makers.length := by
  induction makers generalizing state with
  | nil => rfl
  | cons maker rest inductionHypothesis =>
      rw [makeEdits, List.length_cons, List.length_cons, inductionHypothesis]

section Recorded

variable (log : List Action)

/-- Edits that were made one after the other, starting at a place among all actions. -/
def recordedEdits (first : Nat) (edits : List (Edit σ)) : List (Edit (σ × List Action)) :=
  (edits.zipIdx first).map fun entry => entry.1.recorded entry.2

theorem makeEdits_recorded (makers : List (EditMaker σ)) (step : Nat) (state : σ) :
    makeEdits ((makers.zipIdx step).map fun entry => entry.1.recorded entry.2) (state, log) =
      (recordedEdits log.length (makeEdits makers state).1, (makeEdits makers state).2,
        log ++ (List.range' step makers.length).map .made) := by
  induction makers generalizing step state log with
  | nil => simp [makeEdits, recordedEdits]
  | cons maker rest inductionHypothesis =>
      rw [List.zipIdx_cons, List.map_cons, makeEdits, EditMaker.recorded, inductionHypothesis]
      simp [makeEdits, recordedEdits, List.range'_succ]

theorem Pass.actions_cons (first : Nat) (start : Stage σ) (edit : Edit σ) (rest : List (Edit σ)) :
    Pass.actions first ⟨start, edit :: rest⟩ =
      .edited first start.1 (start.edited edit).1 ::
        Pass.actions (first + 1) ⟨start.edited edit, rest⟩ := by
  rw [Pass.actions, List.length_cons, List.range_succ_eq_map, List.map_cons, List.map_map]
  refine congrArg (_ :: ·) (List.map_congr_left ?_)
  intro step _
  change Action.edited (first + (step + 1)) _ _ = Action.edited (first + 1 + step) _ _
  rw [Nat.add_right_comm, Nat.add_assoc]
  rfl

theorem last_recorded (first : Nat) (start : Element) (state : σ) (edits : List (Edit σ)) :
    Pass.last ⟨(start, state, log), recordedEdits first edits⟩ =
      ((Pass.last ⟨(start, state), edits⟩).1, (Pass.last ⟨(start, state), edits⟩).2,
        log ++ Pass.actions first ⟨(start, state), edits⟩) := by
  induction edits generalizing first start state log with
  | nil => simp [Pass.last, recordedEdits, Pass.actions]
  | cons edit rest inductionHypothesis =>
      rw [Pass.actions_cons]
      have further := inductionHypothesis (log ++ [.edited first start (edit start state).1])
        (first + 1) (edit start state).1 (edit start state).2
      rw [List.append_assoc] at further
      exact further

theorem mapM_finish_recorded (first : Nat) (edits : List (Edit σ)) (blocks : List TokenBlock)
    (state : σ) :
    (blocks.mapM fun tokens =>
      finish directive (recordedEdits first edits) (root directive tokens) :
        StateM (σ × List Action) (List Element)) (state, log) =
        ((passes directive edits blocks state).1.map fun pass => settle directive pass.last.1,
          (passes directive edits blocks state).2,
          log ++ (passes directive edits blocks state).1.flatMap (Pass.actions first)) := by
  induction blocks generalizing state log with
  | nil => exact congrArg (fun log => ([], state, log)) (List.append_nil log).symm
  | cons tokens rest inductionHypothesis =>
      rw [mapM_cons_apply, finish_eq, last_recorded, inductionHypothesis, List.append_assoc]
      rfl

/-- Writing down what makers and edits do changes nothing else. -/
theorem format_recorded (makers : List (EditMaker σ)) (blocks : List TokenBlock) (state : σ) :
    let made := makeEdits makers state
    let run := passes directive made.1 blocks made.2
    format directive (recorded makers) blocks (state, log) =
      (Course.roots directive ⟨made.1, run.1⟩, run.2,
        log ++ Course.actions log.length ⟨made.1, run.1⟩) := by
  intro made run
  rw [format_apply, recorded, makeEdits_recorded, mapM_finish_recorded, List.append_assoc,
    ← List.range_eq_range', ← length_makeEdits makers state]
  rfl

theorem mapM_format_recorded (makers : List (EditMaker σ)) (calls : List (List TokenBlock))
    (state : σ) :
    let runs := courses directive makers calls state
    (calls.mapM (format directive (recorded makers)) :
      StateM (σ × List Action) (List (List Element))) (state, log) =
        (runs.1.map (Course.roots directive), runs.2,
          runs.1.foldl (fun log course => log ++ course.actions log.length) log) := by
  induction calls generalizing state log with
  | nil => rfl
  | cons blocks rest inductionHypothesis =>
      rw [mapM_cons_apply, format_recorded, inductionHypothesis]
      rfl

end Recorded

section Chain

variable {makers : List (EditMaker σ)} {edits : List (Edit σ)} {blocks : List TokenBlock}

theorem length_passes (edits : List (Edit σ)) (blocks : List TokenBlock) (state : σ) :
    (passes directive edits blocks state).1.length = blocks.length := by
  induction blocks generalizing state with
  | nil => rfl
  | cons tokens rest inductionHypothesis =>
      rw [passes, List.length_cons, List.length_cons, inductionHypothesis]

/-- A pass takes the fresh root of its block through all edits. -/
theorem passes_getElem? {state : σ} {place : Nat} {pass : Pass σ}
    (found : (passes directive edits blocks state).1[place]? = some pass) :
    ∃ tokens, blocks[place]? = some tokens ∧ pass.start.1 = root directive tokens ∧
      pass.edits = edits := by
  induction blocks generalizing state place with
  | nil => contradiction
  | cons first rest inductionHypothesis =>
      cases place with
      | zero =>
          cases found
          exact ⟨first, rfl, rfl, rfl⟩
      | succ place => exact inductionHypothesis found

theorem passes_next {state : σ} {place : Nat} {pass next : Pass σ}
    (found : (passes directive edits blocks state).1[place]? = some pass)
    (follows : (passes directive edits blocks state).1[place + 1]? = some next) :
    next.start.2 = pass.last.2 := by
  induction blocks generalizing state place with
  | nil => contradiction
  | cons first rest inductionHypothesis =>
      cases place with
      | succ place => exact inductionHypothesis found follows
      | zero =>
          cases found
          cases rest with
          | nil => contradiction
          | cons second more =>
              cases follows
              rfl

/-- A run has the edits that the makers make when it starts. -/
theorem courses_getElem? {calls : List (List TokenBlock)} {state : σ} {index : Nat}
    {course : Course σ} (found : (courses directive makers calls state).1[index]? = some course) :
    ∃ blocks start, calls[index]? = some blocks ∧ course.edits = (makeEdits makers start).1 ∧
      course.passes = (passes directive course.edits blocks (makeEdits makers start).2).1 := by
  induction calls generalizing state index with
  | nil => contradiction
  | cons first rest inductionHypothesis =>
      cases index with
      | zero =>
          cases found
          exact ⟨first, state, rfl, rfl, rfl⟩
      | succ index => exact inductionHypothesis found

/-- What no edit between two stages changes is the same at both. -/
theorem Pass.own_stage {τ : Type} {own : σ → τ} {pass : Pass σ} {low high : Nat}
    (ordered : low ≤ high)
    (kept : ∀ step edit, low ≤ step → step < high → pass.edits[step]? = some edit →
      ∀ stage : Stage σ, own (stage.edited edit).2 = own stage.2) :
    own (pass.stage high).2 = own (pass.stage low).2 := by
  induction ordered with
  | refl => rfl
  | @step high above inductionHypothesis =>
      rw [← inductionHypothesis fun step edit reached before =>
        kept step edit reached (Nat.lt_succ_of_lt before)]
      cases found : pass.edits[high]? with
      | none =>
          have beyond : pass.edits.length ≤ high := List.getElem?_eq_none_iff.1 found
          rw [stage_of_length_le beyond, stage_of_length_le (Nat.le_succ_of_le beyond)]
      | some edit => rw [stage_succ found, kept high edit above (Nat.lt_succ_self high) found]

/-- What only one edit changes, it finds in the next pass as it left it in this one. -/
theorem own_of_next {τ : Type} {own : σ → τ} {state : σ} {place step : Nat}
    {pass next : Pass σ}
    (found : (passes directive edits blocks state).1[place]? = some pass)
    (follows : (passes directive edits blocks state).1[place + 1]? = some next)
    (others : ∀ other edit, other ≠ step → edits[other]? = some edit →
      ∀ stage : Stage σ, own (stage.edited edit).2 = own stage.2) :
    own (next.stage step).2 = own (pass.stage (step + 1)).2 := by
  obtain ⟨_, _, _, passEdits⟩ := passes_getElem? found
  obtain ⟨_, _, _, nextEdits⟩ := passes_getElem? follows
  have beyond : pass.edits.length ≤ step + 1 + pass.edits.length := Nat.le_add_left ..
  have toEnd : own pass.last.2 = own (pass.stage (step + 1)).2 := by
    rw [← Pass.stage_of_length_le beyond]
    refine Pass.own_stage (Nat.le_add_right ..) fun other edit after _ isEdit => ?_
    exact others other edit (Nat.ne_of_gt after) (passEdits ▸ isEdit)
  have fromStart : own (next.stage step).2 = own next.start.2 :=
    Pass.own_stage (Nat.zero_le step) fun other edit _ before isEdit =>
      others other edit (Nat.ne_of_lt before) (nextEdits ▸ isEdit)
  rw [fromStart, passes_next found follows, toEnd]

end Chain

theorem length_courses (makers : List (EditMaker σ)) (calls : List (List TokenBlock)) (state : σ) :
    (courses directive makers calls state).1.length = calls.length := by
  induction calls generalizing state with
  | nil => rfl
  | cons blocks rest inductionHypothesis =>
      rw [courses, List.length_cons, List.length_cons, inductionHypothesis]

/-- Whatever the makers and edits do, and whatever state they share: in every call all makers run
once and in order, then the roots pass through the edits that were just made, one root after the
other and each edit once and in order, and only then the scopes go. An edit goes on in a root from
where it stopped in the root before. -/
theorem edits_run_in_turn_after_makers (directive : Directive) (makers : List (EditMaker σ))
    (calls : List (List TokenBlock)) (state : σ) (log : List Action) :
    let runs := courses directive makers calls state
    (calls.mapM (format directive makers) : StateM σ (List (List Element))) state =
      (runs.1.map (Course.roots directive), runs.2) ∧
    -- What the makers and edits do in the meantime.
    (calls.mapM (format directive (recorded makers)) :
      StateM (σ × List Action) (List (List Element))) (state, log) =
        (runs.1.map (Course.roots directive), runs.2,
          runs.1.foldl (fun log course => log ++ course.actions log.length) log) ∧
    runs.1.length = calls.length ∧
    ∀ (index : Nat) (course : Course σ), runs.1[index]? = some course →
      ∃ (blocks : List TokenBlock) (start : σ), calls[index]? = some blocks ∧
        course.edits = (makeEdits makers start).1 ∧ course.edits.length = makers.length ∧
        course.passes.length = blocks.length ∧
        ∀ (place : Nat) (pass : Pass σ), course.passes[place]? = some pass →
          (∃ tokens, blocks[place]? = some tokens ∧ pass.start.1 = root directive tokens) ∧
          (∀ step edit, course.edits[step]? = some edit →
            pass.stage (step + 1) = (pass.stage step).edited edit) ∧
          -- From one root to the next.
          ∀ next : Pass σ, course.passes[place + 1]? = some next → next.start.2 = pass.last.2 ∧
            ∀ (τ : Type) (own : σ → τ) (step : Nat),
              (∀ other edit, other ≠ step → course.edits[other]? = some edit →
                ∀ stage : Stage σ, own (stage.edited edit).2 = own stage.2) →
              own (next.stage step).2 = own (pass.stage (step + 1)).2 := by
  intro runs
  refine ⟨mapM_format makers calls state, mapM_format_recorded log makers calls state,
    length_courses makers calls state, ?_⟩
  intro index course found
  obtain ⟨blocks, start, call, edits, ways⟩ := courses_getElem? found
  refine ⟨blocks, start, call, edits, edits ▸ length_makeEdits makers start,
    ways ▸ length_passes .., ?_⟩
  rw [ways]
  intro place pass isPass
  obtain ⟨tokens, block, fresh, passEdits⟩ := passes_getElem? isPass
  refine ⟨⟨tokens, block, fresh⟩, ?_, ?_⟩
  · intro step edit isEdit
    exact Pass.stage_succ (passEdits ▸ isEdit)
  · intro next isNext
    refine ⟨passes_next isPass isNext, ?_⟩
    intro τ own step others
    exact own_of_next isPass isNext others

/-- Counts the roots in a cell of its own, from the start whenever it is made. -/
def counter (cell : Bool) : EditMaker (Bool → Nat) := fun counts =>
  let put (count : Nat) (counts : Bool → Nat) (other : Bool) : Nat :=
    if other = cell then count else counts other
  (fun root counts =>
    (root.withText "data-count" (toString (counts cell + 1)), put (counts cell + 1) counts),
    put 0 counts)

theorem edits_run_in_turn_after_makers_of_counters :
    let light : TokenBlock := ⟨⟨"light", "#000", "#fff"⟩, [[{ content := "a" }]]⟩
    let dark : TokenBlock := ⟨⟨"dark", "#fff", "#000"⟩, []⟩
    let calls := [[light, dark], [], [dark]]
    let makers := [counter false, counter true]
    ((calls.mapM (format {} (recorded makers)) : StateM ((Bool → Nat) × List Action)
      (List (List Element))) (fun _ => 7, [])).2.2.map Action.made? =
        [some 0, some 1, none, none, none, none, some 0, some 1, some 0, some 1, none, none] ∧
    ∃ course pass next, (courses {} makers calls fun _ => 7).1[0]? = some course ∧
      course.passes = [pass, next] ∧ (next.stage 0).2 false = 1 := by
  intro light dark calls makers
  obtain ⟨_, logged, _, runs⟩ := edits_run_in_turn_after_makers {} makers calls (fun _ => 7) []
  refine ⟨?_, ?_⟩
  · rw [logged]
    rfl
  · obtain ⟨course, found⟩ : ∃ course, (courses {} makers calls fun _ => 7).1[0]? = some course :=
      ⟨_, rfl⟩
    obtain ⟨pass, next, both⟩ : ∃ pass next, course.passes = [pass, next] := by
      cases found
      exact ⟨_, _, rfl⟩
    obtain ⟨_, _, _, _, two, _, ways⟩ := runs 0 course found
    obtain ⟨_, _, onward⟩ := ways 0 pass (by rw [both]; rfl)
    obtain ⟨_, goesOn⟩ := onward next (by rw [both]; rfl)
    have others : ∀ other edit, other ≠ 0 → course.edits[other]? = some edit →
        ∀ stage : Stage (Bool → Nat), (stage.edited edit).2 false = stage.2 false := by
      intro other edit different isEdit stage
      have both : course.edits.length = 2 := two
      have within : other < 2 := both ▸ (List.getElem?_eq_some_iff.1 isEdit).1
      obtain rfl : other = 1 := by omega
      cases found
      cases isEdit
      rfl
    refine ⟨course, pass, next, found, both, (goesOn Nat (· false) 0 others).trans ?_⟩
    cases found
    cases both
    rfl

end Layout

end Listings

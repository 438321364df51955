/-
This file shows what the lock of a shared cache is good for. Whatever the order of the steps, the
calls take turns, each finds what the one before has left, and all of them come to an end.
-/

import Listings.Proofs.Cache.Sharing
import Mathlib.Algebra.BigOperators.Group.Finset.Basic
import Mathlib.Algebra.Order.BigOperators.Group.Finset
import Mathlib.Data.Fintype.Card

namespace Listings

open Cache (Call Reply)

namespace SharedCache

theorem Phase.isOutside_eq_false_of_isCreating {phase : Phase}
    (creating : phase.isCreating = true) : phase.isOutside = false := by
  cases phase <;> first | rfl | contradiction

theorem Phase.isOutside_eq_false_of_attempt? {phase : Phase} {pending : Nat × Configuration}
    (found : phase.attempt? = some pending) : phase.isOutside = false := by
  cases phase <;> first | rfl | contradiction

/-- The steps that a call still has before it. -/
def Phase.weight : Phase → Nat
  | idle => 0
  | waiting _ => 5
  | entered _ => 4
  | creating .. => 3
  | created .. => 2
  | leaving _ => 1

/-- The steps that a task still has before it, or more. -/
def Task.weight (task : Task) : Nat := task.phase.weight + 6 * task.pending.length

variable {ι : Type} {factory : Factory} {initial : Configuration} {program : ι → List Call}
  {shared next : SharedCache ι} {task : ι} {done : List (ι × Call)}

section Requests

variable {base cache : Cache} {asked requests : List Configuration} {call : Call} {phase : Phase}

theorem Underway.exists_requests
    (underway : Underway factory base asked call cache requests phase) :
    ∃ more, requests = asked ++ more := by
  cases underway with
  | entered call => exact ⟨[], (List.append_nil _).symm⟩
  | creating absent => exact ⟨_, rfl⟩
  | created absent answered => exact ⟨_, rfl⟩
  | leaving call => exact ⟨_, rfl⟩

/-- A call that holds the lock waits for nobody. -/
theorem Underway.leaving_or_exists_work
    (underway : Underway factory base asked call cache requests phase) :
    (∃ reply, phase = .leaving reply) ∨
      ∃ later more further, Work factory cache requests phase later more further := by
  cases underway with
  | entered call =>
      by_cases acquires : call = .acquire
      · subst acquires
        rcases Option.eq_none_or_eq_some base.engine with absent | ⟨built, present⟩
        · exact .inr ⟨_, _, _, .request absent⟩
        · exact .inr ⟨_, _, _, .find present⟩
      · exact .inr ⟨_, _, _, .update acquires⟩
  | creating absent => exact .inr ⟨_, _, _, .finish⟩
  | @created outcome absent answered =>
      cases outcome with
      | error error => exact .inr ⟨_, _, _, .fail⟩
      | ok engine => exact .inr ⟨_, _, _, .store⟩
  | leaving call => exact .inl ⟨_, rfl⟩

/-- While an attempt is made the cache is empty, and its configuration that of the attempt. -/
theorem Underway.of_attempt? (underway : Underway factory base asked call cache requests phase)
    {attempt : Nat} {configuration : Configuration}
    (pending : phase.attempt? = some (attempt, configuration)) :
    cache.configuration = configuration ∧ cache.engine = none := by
  cases underway with
  | entered call => contradiction
  | creating absent =>
      cases pending
      exact ⟨rfl, absent⟩
  | created absent answered =>
      cases pending
      exact ⟨rfl, absent⟩
  | leaving call => contradiction

theorem Work.cache_eq_of_attempt? {later : Cache} {more : List Configuration} {further : Phase}
    (works : Work factory cache requests phase later more further) {pending : Nat × Configuration}
    (before : phase.attempt? = some pending) (still : further.attempt? = some pending) :
    later = cache := by
  cases works with
  | find present => contradiction
  | request absent => contradiction
  | finish => rfl
  | store => contradiction
  | fail => contradiction
  | update other => contradiction

end Requests

theorem map_fst_answersTo (factory : Factory) (initial : Configuration) (turns : List (ι × Call)) :
    (answersTo factory initial turns).map Prod.fst = turns.map Prod.fst := by
  rw [answersTo, List.map_fst_zip]
  rw [List.length_map, List.length_map, Cache.length_events, List.length_map]

section Tasks

variable [DecidableEq ι]

theorem mem_ofTask {α : Type} {task : ι} {entries : List (ι × α)} {value : α} :
    value ∈ ofTask task entries ↔ (task, value) ∈ entries := by
  simp [ofTask]

theorem length_ofTask {α : Type} (task : ι) (entries : List (ι × α)) :
    (ofTask task entries).length = (entries.map Prod.fst).count task := by
  rw [ofTask, List.length_map, ← List.countP_eq_length_filter, List.count, List.countP_map]
  exact List.countP_congr fun entry _ => by simp

/-- The answers to a task are replies of the cache to its calls. -/
theorem exists_event_of_answer {reply : Reply}
    (member : reply ∈ ofTask task (answersTo factory initial done)) :
    ∃ event ∈ Cache.events factory { configuration := initial } (done.map Prod.snd),
      event.reply = reply :=
  List.mem_map.1 (List.of_mem_zip (mem_ofTask.1 member)).2

/-- What was asked for by the calls that are done was asked for. -/
theorem Serial.exists_requests (serial : Serial factory initial program done shared) :
    ∃ more, shared.requests = requestsOf factory initial done ++ more := by
  rcases isHeld : shared.holder with _ | task
  · exact ⟨[], by rw [(serial.free isHeld).2.2, List.append_nil]⟩
  · obtain ⟨_, _, underway⟩ := serial.held task isHeld
    exact underway.exists_requests

/-- An engine that a task was handed came of the attempt to make it for the configuration that it
is paired with. -/
theorem Serial.made (serial : Serial factory initial program done shared) {built : BuiltEngine}
    (member : .engine (.ok built) ∈ (shared.tasks task).replies) :
    shared.requests[built.attempt]? = some built.configuration ∧
      (factory.create built.attempt built.configuration).value = .ok built.engine := by
  rw [serial.replies] at member
  obtain ⟨event, among, handed⟩ := exists_event_of_answer member
  have recorded : Cache.Recorded factory [] { configuration := initial } :=
    ⟨Cache.coherent_of_engine_eq_none rfl, rfl, fun _ present => nomatch present⟩
  obtain ⟨request, made⟩ := recorded.event among handed
  obtain ⟨more, requests⟩ := serial.exists_requests
  rw [requests]
  exact ⟨Cache.getElem?_append_of_eq_some request, made⟩

/-- Nothing changes the cache while an attempt is made. -/
theorem Serial.cache_eq_of_attempt? (serial : Serial factory initial program done shared)
    {other : ι} (step : Step factory other shared next) {pending : Nat × Configuration}
    (before : (shared.tasks task).phase.attempt? = some pending)
    (still : (next.tasks task).phase.attempt? = some pending) : next.cache = shared.cache := by
  cases step with
  | call idle upcoming => rfl
  | enter waiting free => rfl
  | work works =>
      have isHeld := serial.holder_eq (Phase.isOutside_eq_false_of_attempt? before)
      obtain rfl : task = other := Option.some.inj
        (isHeld.symm.trans (serial.holder_eq works.isOutside_eq_false))
      dsimp only at still
      rw [Function.update_self] at still
      exact works.cache_eq_of_attempt? before still
  | leave leaving => rfl

theorem Serial.exists_step_of_held (serial : Serial factory initial program done shared)
    (isHeld : shared.holder = some task) : ∃ next, Step factory task shared next := by
  obtain ⟨_, _, underway⟩ := serial.held task isHeld
  rcases underway.leaving_or_exists_work with ⟨reply, leaving⟩ | ⟨_, _, _, works⟩
  · exact ⟨_, .leave leaving⟩
  · exact ⟨_, .work works⟩

/-- Some task can go on until all are finished. -/
theorem Serial.isFinished_or_exists_step (serial : Serial factory initial program done shared) :
    IsFinished shared ∨ ∃ task next, Step factory task shared next := by
  rcases isHeld : shared.holder with _ | holder
  · by_cases finished : IsFinished shared
    · exact .inl finished
    · obtain ⟨task, unfinished⟩ := not_forall.1 finished
      have outside := serial.outside task (by simp [isHeld])
      cases phase : (shared.tasks task).phase with
      | idle =>
          obtain ⟨call, rest, upcoming⟩ :=
            List.exists_cons_of_ne_nil fun nothing => unfinished ⟨phase, nothing⟩
          exact .inr ⟨task, _, .call phase upcoming⟩
      | waiting call => exact .inr ⟨task, _, .enter phase isHeld⟩
      | _ =>
          rw [phase] at outside
          contradiction
  · obtain ⟨next, step⟩ := serial.exists_step_of_held isHeld
    exact .inr ⟨holder, next, step⟩

theorem Work.weight_lt {cache later : Cache} {requests more : List Configuration}
    {phase further : Phase} (works : Work factory cache requests phase later more further) :
    further.weight < phase.weight := by
  cases works <;> simp [Phase.weight]

/-- With every step a task has less before it. -/
theorem Step.task_weight_lt (step : Step factory task shared next) :
    (next.tasks task).weight < (shared.tasks task).weight := by
  cases step with
  | call idle upcoming =>
      dsimp only
      rw [Function.update_self, Task.weight, Task.weight, idle, upcoming, List.length_cons]
      simp only [Phase.weight]
      omega
  | enter waiting free =>
      dsimp only
      rw [Function.update_self, Task.weight, Task.weight, waiting]
      exact Nat.add_lt_add_right (Nat.lt_succ_self 4) _
  | work works =>
      dsimp only
      rw [Function.update_self]
      exact Nat.add_lt_add_right works.weight_lt _
  | leave leaving =>
      dsimp only
      rw [Function.update_self, Task.weight, Task.weight, leaving]
      exact Nat.add_lt_add_right Nat.zero_lt_one _

/-- When all is done, the calls were made one after the other. -/
theorem Serial.of_isFinished (serial : Serial factory initial program done shared)
    (finished : IsFinished shared) :
    shared.turns = done ∧ shared.cache = cacheAfter factory initial done ∧
      shared.requests = requestsOf factory initial done ∧
      ∀ task, ofTask task shared.turns = program task := by
  have isFree : shared.holder = none := by
    by_contra notFree
    obtain ⟨task, isHeld⟩ := Option.ne_none_iff_exists'.1 notFree
    have outside : (shared.tasks task).phase.isOutside = true := by
      rw [(finished task).1]
      rfl
    exact serial.holder_ne outside isHeld
  obtain ⟨turns, cache, requests⟩ := serial.free isFree
  refine ⟨turns, cache, requests, ?_⟩
  intro task
  have nothing : (shared.tasks task).ahead = [] := by
    rw [Task.ahead, (finished task).1, (finished task).2]
    rfl
  rw [← serial.program task, nothing, List.append_nil]

/-- A task that makes one call gets one answer. -/
theorem ofTask_answersTo_eq_singleton {turns : List (ι × Call)} {call : Call} {reply : Reply}
    (once : ofTask task turns = [call])
    (answered : reply ∈ ofTask task (answersTo factory initial turns)) :
    ofTask task (answersTo factory initial turns) = [reply] := by
  have length : (ofTask task (answersTo factory initial turns)).length = 1 := by
    rw [length_ofTask, map_fst_answersTo, ← length_ofTask, once, List.length_singleton]
  obtain ⟨only, isOnly⟩ := List.length_eq_one_iff.1 length
  rw [isOnly] at answered ⊢
  rw [List.mem_singleton.1 answered]

end Tasks

section Finite

variable [DecidableEq ι] [Fintype ι]

/-- There is no run without an end. -/
theorem acc_step (factory : Factory) (shared : SharedCache ι) :
    Acc (fun later earlier => ∃ task, Step factory task earlier later) shared := by
  have decreases : Subrelation (fun later earlier => ∃ task, Step factory task earlier later)
      (measure fun shared : SharedCache ι => ∑ task, (shared.tasks task).weight).rel := by
    rintro later earlier ⟨task, step⟩
    have notMore : ∀ other, (later.tasks other).weight ≤ (earlier.tasks other).weight := by
      intro other
      by_cases same : other = task
      · rw [same]
        exact step.task_weight_lt.le
      · rw [step.tasks_of_ne same]
    change ∑ task, (later.tasks task).weight < ∑ task, (earlier.tasks task).weight
    exact Finset.sum_lt_sum (fun other _ => notMore other)
      ⟨task, Finset.mem_univ task, step.task_weight_lt⟩
  exact (decreases.wf (measure _).wf).apply shared

/-- The calls can always be brought to an end. -/
theorem Reachable.exists_finished (reachable : Reachable factory initial program shared) :
    ∃ finished, Reachable factory initial program finished ∧ IsFinished finished := by
  induction acc_step factory shared with
  | intro shared _ inductionHypothesis =>
      obtain ⟨_, serial⟩ := reachable.serial
      rcases serial.isFinished_or_exists_step with finished | ⟨task, next, step⟩
      · exact ⟨shared, reachable, finished⟩
      · exact inductionHypothesis next ⟨task, step⟩ (reachable.step step)

/-- One call of each task makes as many calls as there are tasks. -/
theorem length_of_ofTask_eq_singleton {turns : List (ι × Call)} {call : Call}
    (once : ∀ task, ofTask task turns = [call]) : turns.length = Fintype.card ι := by
  have count : ∀ task, (turns.map Prod.fst).count task = 1 := by
    intro task
    rw [← length_ofTask, once, List.length_singleton]
  have distinct : (turns.map Prod.fst).Nodup :=
    List.nodup_iff_count_le_one.2 fun task => (count task).le
  have everyone : (turns.map Prod.fst).toFinset = Finset.univ := by
    refine Finset.eq_univ_iff_forall.2 fun task => List.mem_toFinset.2 ?_
    exact List.count_pos_iff.1 (by rw [count]; exact Nat.one_pos)
  rw [← Finset.card_univ, ← everyone, List.toFinset_card_of_nodup distinct, List.length_map]

theorem map_snd_of_ofTask_eq_singleton {turns : List (ι × Call)} {call : Call}
    (once : ∀ task, ofTask task turns = [call]) :
    turns.map Prod.snd = List.replicate (Fintype.card ι) call := by
  refine List.eq_replicate_iff.2 ⟨?_, ?_⟩
  · rw [List.length_map, length_of_ofTask_eq_singleton once]
  · intro other member
    obtain ⟨⟨task, _⟩, among, rfl⟩ := List.mem_map.1 member
    have own := mem_ofTask.2 among
    rw [once] at own
    exact List.mem_singleton.1 own

/-- When all tasks have asked for the engine of a new cache, they are several callers. -/
theorem Serial.turns_of_acquire (serial : Serial factory initial program done shared)
    (acquires : ∀ task, program task = [.acquire]) (finished : IsFinished shared) :
    done.map Prod.snd = List.replicate (Fintype.card ι) .acquire ∧
      ∀ task, ofTask task done = [.acquire] := by
  obtain ⟨turns, _, _, whole⟩ := serial.of_isFinished finished
  rw [turns] at whole
  have once : ∀ task, ofTask task done = [.acquire] := fun task =>
    (whole task).trans (acquires task)
  exact ⟨map_snd_of_ofTask_eq_singleton once, once⟩

theorem Serial.cache_of_acquire (serial : Serial factory initial program done shared)
    (acquires : ∀ task, program task = [.acquire]) (finished : IsFinished shared) :
    shared.cache =
      (Cache.acquireAll factory (Fintype.card ι) { configuration := initial }).value.2 := by
  rw [(serial.of_isFinished finished).2.1, cacheAfter,
    (serial.turns_of_acquire acquires finished).1, (Cache.acquireAll_eq_after _ _ _).1]

/-- One construction serves all tasks. -/
theorem Serial.replies_of_ok (serial : Serial factory initial program done shared)
    (acquires : ∀ task, program task = [.acquire]) (finished : IsFinished shared)
    {engine : Engine} (created : (factory.create 0 initial).value = .ok engine) (task : ι) :
    shared.cache.attempts = 1 ∧ shared.cache.builds = 1 ∧
      (shared.tasks task).replies = [.engine (.ok ⟨0, initial, engine⟩)] := by
  obtain ⟨calls, once⟩ := serial.turns_of_acquire acquires finished
  have some : Fintype.card ι = Fintype.card ι - 1 + 1 :=
    (Nat.succ_pred_eq_of_pos (Fintype.card_pos_iff.2 ⟨task⟩)).symm
  rw [some] at calls
  let start : Cache := { configuration := initial }
  have absent : start.engine = none := rfl
  obtain ⟨attempts, builds, replies⟩ :=
    Cache.acquire_repeatedly_of_ok absent created (Fintype.card ι - 1)
  rw [← calls] at attempts builds replies
  rw [(serial.of_isFinished finished).2.1, serial.replies]
  refine ⟨attempts, builds, ?_⟩
  obtain ⟨answer, answered⟩ : ∃ answer, answer ∈ ofTask task (answersTo factory initial done) := by
    refine List.exists_mem_of_length_pos ?_
    rw [length_ofTask, map_fst_answersTo, ← length_ofTask, once]
    exact Nat.one_pos
  obtain ⟨event, among, rfl⟩ := exists_event_of_answer answered
  rw [ofTask_answersTo_eq_singleton (once task) answered, replies event among]

/-- With a factory that fails each task makes its own attempt. -/
theorem Serial.replies_of_error (serial : Serial factory initial program done shared)
    (acquires : ∀ task, program task = [.acquire]) (finished : IsFinished shared)
    (failing : ∀ attempt, ∃ error, (factory.create attempt initial).value = .error error) :
    shared.cache.attempts = Fintype.card ι ∧ shared.cache.builds = 0 ∧
      shared.requests = List.replicate (Fintype.card ι) initial ∧
      ∀ task, ∃ attempt error, shared.turns[attempt]? = some (task, .acquire) ∧
        (factory.create attempt initial).value = .error error ∧
        (shared.tasks task).replies = [.engine (.error error)] := by
  obtain ⟨calls, once⟩ := serial.turns_of_acquire acquires finished
  obtain ⟨turns, cache, requests, _⟩ := serial.of_isFinished finished
  let start : Cache := { configuration := initial }
  have absent : start.engine = none := rfl
  obtain ⟨attempts, builds, asked, replies⟩ :=
    Cache.acquire_repeatedly_of_error absent failing (Fintype.card ι)
  rw [← calls] at attempts builds asked replies
  rw [cache, requests, turns]
  refine ⟨attempts.trans (Nat.zero_add _), builds, asked, ?_⟩
  intro task
  have own : (task, .acquire) ∈ done := mem_ofTask.1 (by rw [once]; exact List.mem_singleton_self _)
  obtain ⟨attempt, position⟩ := List.mem_iff_getElem?.1 own
  obtain ⟨event, isEvent⟩ : ∃ event, (Cache.events factory { configuration := initial }
      (done.map Prod.snd))[attempt]? = some event := by
    refine ⟨_, List.getElem?_eq_getElem ?_⟩
    rw [Cache.length_events, List.length_map]
    exact (List.getElem?_eq_some_iff.1 position).1
  obtain ⟨error, failed, reply⟩ := replies attempt event isEvent
  rw [Nat.zero_add] at failed
  have answered : event.reply ∈ ofTask task (answersTo factory initial done) := by
    refine mem_ofTask.2 (List.mem_iff_getElem?.2 ⟨attempt, ?_⟩)
    rw [answersTo, List.getElem?_zip_eq_some, List.getElem?_map, List.getElem?_map, position,
      isEvent]
    exact ⟨rfl, rfl⟩
  refine ⟨attempt, error, position, failed, ?_⟩
  rw [serial.replies, ofTask_answersTo_eq_singleton (once task) answered, reply]

/-- The calls on a shared cache take turns, whatever the order of the steps. One attempt is made at
a time and nothing else changes the cache meanwhile, each engine is handed out with the
configuration that it was asked for with, the cache and the replies are those of the calls made one
after the other in the order in which they got the lock, and all calls come to an end. -/
theorem calls_take_turns (factory : Factory) (initial : Configuration) (program : ι → List Call)
    (shared : SharedCache ι) (reachable : Reachable factory initial program shared) :
    (∀ task other, (shared.tasks task).phase.isCreating = true →
      (shared.tasks other).phase.isCreating = true → task = other) ∧
    (∀ task attempt configuration,
      (shared.tasks task).phase.attempt? = some (attempt, configuration) →
        shared.cache.configuration = configuration ∧ shared.cache.engine = none ∧
        ∀ other next, Step factory other shared next →
          (next.tasks task).phase.attempt? = some (attempt, configuration) →
            next.cache = shared.cache) ∧
    (∀ task built, .engine (.ok built) ∈ (shared.tasks task).replies →
      shared.requests[built.attempt]? = some built.configuration ∧
        (factory.create built.attempt built.configuration).value = .ok built.engine) ∧
    -- The calls that are done, and one that may have the lock now.
    (∃ done, (shared.holder = none ∧ shared.turns = done ∧
          shared.cache = cacheAfter factory initial done ∨
        ∃ task call, shared.holder = some task ∧ shared.turns = done ++ [(task, call)]) ∧
      ∀ task, (shared.tasks task).replies = ofTask task (answersTo factory initial done)) ∧
    (∀ task, ofTask task shared.turns ++ (shared.tasks task).ahead = program task) ∧
    -- The end of it.
    Acc (fun later earlier => ∃ task, Step factory task earlier later) shared ∧
    (IsFinished shared ∨ ∃ task next, Step factory task shared next) ∧
    (IsFinished shared → shared.cache = cacheAfter factory initial shared.turns ∧
      ∀ task, ofTask task shared.turns = program task ∧
        (shared.tasks task).replies = ofTask task (answersTo factory initial shared.turns)) ∧
    -- Tasks that only ask for the engine.
    ((∀ task, program task = [.acquire]) → IsFinished shared →
      shared.cache =
        (Cache.acquireAll factory (Fintype.card ι) { configuration := initial }).value.2 ∧
      (∀ engine, (factory.create 0 initial).value = .ok engine → ∀ task,
        shared.cache.attempts = 1 ∧ shared.cache.builds = 1 ∧
          (shared.tasks task).replies = [.engine (.ok ⟨0, initial, engine⟩)]) ∧
      ((∀ attempt, ∃ error, (factory.create attempt initial).value = .error error) →
        shared.cache.attempts = Fintype.card ι ∧ shared.cache.builds = 0 ∧
        shared.requests = List.replicate (Fintype.card ι) initial ∧
        ∀ task, ∃ attempt error, shared.turns[attempt]? = some (task, .acquire) ∧
          (factory.create attempt initial).value = .error error ∧
          (shared.tasks task).replies = [.engine (.error error)])) := by
  obtain ⟨done, serial⟩ := reachable.serial
  refine ⟨?_, ?_, ?_, ⟨done, ?_, serial.replies⟩, serial.program, acc_step factory shared,
    serial.isFinished_or_exists_step, ?_, ?_⟩
  · intro task other creating alsoCreating
    have isHeld := serial.holder_eq (Phase.isOutside_eq_false_of_isCreating creating)
    rw [serial.holder_eq (Phase.isOutside_eq_false_of_isCreating alsoCreating)] at isHeld
    exact (Option.some.inj isHeld).symm
  · intro task attempt configuration pending
    obtain ⟨_, _, underway⟩ :=
      serial.held task (serial.holder_eq (Phase.isOutside_eq_false_of_attempt? pending))
    obtain ⟨same, absent⟩ := underway.of_attempt? pending
    exact ⟨same, absent, fun other next step still =>
      serial.cache_eq_of_attempt? step pending still⟩
  · intro task built member
    exact serial.made member
  · rcases isHeld : shared.holder with _ | task
    · obtain ⟨turns, cache, _⟩ := serial.free isHeld
      exact .inl ⟨rfl, turns, cache⟩
    · obtain ⟨call, turns, _⟩ := serial.held task isHeld
      exact .inr ⟨task, call, rfl, turns⟩
  · intro finished
    obtain ⟨turns, cache, _, whole⟩ := serial.of_isFinished finished
    refine ⟨turns ▸ cache, fun task => ⟨whole task, ?_⟩⟩
    rw [serial.replies, turns]
  · intro acquires finished
    exact ⟨serial.cache_of_acquire acquires finished,
      fun engine created task => serial.replies_of_ok acquires finished created task,
      serial.replies_of_error acquires finished⟩

theorem calls_take_turns_of_two : ∃ shared : SharedCache (Fin 2),
    Reachable Keyword.factory ⟨["light"]⟩ (fun _ => [.acquire]) shared ∧ IsFinished shared ∧
      shared.cache.attempts = 1 ∧ ∃ built, ∀ task,
        (shared.tasks task).replies = [.engine (.ok built)] := by
  have reachableStart : Reachable Keyword.factory ⟨["light"]⟩ (fun _ : Fin 2 => [.acquire]) _ :=
    .start
  obtain ⟨shared, reachable, finished⟩ := reachableStart.exists_finished
  obtain ⟨engine, created⟩ : ∃ engine, (Keyword.factory.create 0 ⟨["light"]⟩).value = .ok engine :=
    ⟨_, rfl⟩
  obtain ⟨_, _, _, _, _, _, _, _, together⟩ := calls_take_turns _ _ _ shared reachable
  have served := (together (fun _ => rfl) finished).2.1 engine created
  exact ⟨shared, reachable, finished, (served 0).1, _, fun task => (served task).2.2⟩

end Finite

end SharedCache

end Listings

/-
This file lets any number of tasks call one cache, in steps that may come in any order. A call holds
the lock of the cache from its first look at it to its answer.
-/

import Listings.Proofs.Cache.Requests
import Mathlib.Logic.Function.Basic

namespace Listings

open Cache (Call Reply)

namespace SharedCache

/-- How far a task has come with a call. -/
inductive Phase where
  /-- No call is on its way. -/
  | idle
  /-- The call waits for the lock. -/
  | waiting (call : Call)
  /-- The call holds the lock and has done nothing else. -/
  | entered (call : Call)
  /-- The factory was asked for an engine. -/
  | creating (attempt : Nat) (configuration : Configuration)
  /-- The factory has answered. -/
  | created (attempt : Nat) (configuration : Configuration) (outcome : Except EngineError Engine)
  /-- The call has its answer and still holds the lock. -/
  | leaving (reply : Reply)

namespace Phase

/-- The call that waits for the lock. -/
def waiting? : Phase → Option Call
  | waiting call => some call
  | _ => none

/-- The factory is at work. -/
def isCreating : Phase → Bool
  | creating .. => true
  | _ => false

/-- The attempt whose outcome is not stored yet, and what it was asked for. -/
def attempt? : Phase → Option (Nat × Configuration)
  | creating attempt configuration => some (attempt, configuration)
  | created attempt configuration _ => some (attempt, configuration)
  | _ => none

/-- The call does not hold the lock. -/
def isOutside : Phase → Bool
  | idle | waiting _ => true
  | _ => false

end Phase

structure Task where
  phase : Phase := .idle
  /-- The calls to come. -/
  pending : List Call
  /-- The answers to the calls before. -/
  replies : List Reply := []

/-- The calls that have not got the lock yet. -/
def Task.ahead (task : Task) : List Call := task.phase.waiting?.toList ++ task.pending

end SharedCache

/-- A cache that tasks share. -/
structure SharedCache (ι : Type) where
  cache : Cache
  /-- The lock is free if no task holds it. -/
  holder : Option ι := none
  tasks : ι → SharedCache.Task
  /-- The calls that got the lock, in order. -/
  turns : List (ι × Call) := []
  /-- What the factory was asked for, in order. -/
  requests : List Configuration := []

namespace SharedCache

variable {ι : Type}

/-- A step inside a call that holds the lock: the cache, what the factory was asked for, and the
phase of the task, each before and after it. -/
inductive Work (factory : Factory) : Cache → List Configuration → Phase →
    Cache → List Configuration → Phase → Prop where
  | find {cache : Cache} {requests : List Configuration} {built : BuiltEngine}
      (present : cache.engine = some built) :
      Work factory cache requests (.entered .acquire) cache requests
        (.leaving (.engine (.ok { built with configuration := cache.configuration })))
  | request {cache : Cache} {requests : List Configuration} (absent : cache.engine = none) :
      Work factory cache requests (.entered .acquire)
        { cache with attempts := cache.attempts + 1 } (requests ++ [cache.configuration])
        (.creating cache.attempts cache.configuration)
  | finish {cache : Cache} {requests : List Configuration} {attempt : Nat}
      {configuration : Configuration} :
      Work factory cache requests (.creating attempt configuration) cache requests
        (.created attempt configuration (factory.create attempt configuration).value)
  | store {cache : Cache} {requests : List Configuration} {attempt : Nat}
      {configuration : Configuration} {engine : Engine} :
      Work factory cache requests (.created attempt configuration (.ok engine))
        { cache with
          engine := some ⟨attempt, configuration, engine⟩
          builds := cache.builds + 1 } requests
        (.leaving (.engine (.ok ⟨attempt, cache.configuration, engine⟩)))
  | fail {cache : Cache} {requests : List Configuration} {attempt : Nat}
      {configuration : Configuration} {error : EngineError} :
      Work factory cache requests (.created attempt configuration (.error error)) cache requests
        (.leaving (.engine (.error error)))
  | update {cache : Cache} {requests : List Configuration} {call : Call}
      (other : call ≠ .acquire) :
      Work factory cache requests (.entered call) (call.perform factory cache).2 requests
        (.leaving (call.perform factory cache).1)

section Turns

variable (factory : Factory) (initial : Configuration)

/-- The cache after the calls, made one after the other. -/
def cacheAfter (turns : List (ι × Call)) : Cache :=
  Cache.after factory { configuration := initial } (turns.map Prod.snd)

/-- What the factory is asked for by the calls, made one after the other. -/
def requestsOf (turns : List (ι × Call)) : List Configuration :=
  Cache.requested factory { configuration := initial } (turns.map Prod.snd)

/-- The answers to the calls, made one after the other. -/
def answersTo (turns : List (ι × Call)) : List (ι × Reply) :=
  (turns.map Prod.fst).zip
    ((Cache.events factory { configuration := initial } (turns.map Prod.snd)).map Cache.Event.reply)

variable {factory : Factory} {initial : Configuration}

theorem cacheAfter_concat (turns : List (ι × Call)) (task : ι) (call : Call) :
    cacheAfter factory initial (turns ++ [(task, call)]) =
      (call.perform factory (cacheAfter factory initial turns)).2 := by
  rw [cacheAfter, List.map_append, Cache.after_append]
  rfl

theorem requestsOf_concat (turns : List (ι × Call)) (task : ι) (call : Call) :
    requestsOf factory initial (turns ++ [(task, call)]) =
      requestsOf factory initial turns ++ call.requests (cacheAfter factory initial turns) := by
  rw [requestsOf, List.map_append, Cache.requested_append, requestsOf, cacheAfter]
  simp [Cache.requested]

theorem answersTo_concat (turns : List (ι × Call)) (task : ι) (call : Call) :
    answersTo factory initial (turns ++ [(task, call)]) = answersTo factory initial turns ++
      [(task, (call.perform factory (cacheAfter factory initial turns)).1)] := by
  have sameLength : (turns.map Prod.fst).length = ((Cache.events factory
      { configuration := initial } (turns.map Prod.snd)).map Cache.Event.reply).length := by
    rw [List.length_map, List.length_map, Cache.length_events, List.length_map]
  rw [answersTo, List.map_append, List.map_append, Cache.events_append, List.map_append,
    List.zip_append sameLength]
  rfl

end Turns

/-- A call that began on a cache and has come to a phase, with the cache and the requests now. -/
inductive Underway (factory : Factory) (base : Cache) (asked : List Configuration) :
    Call → Cache → List Configuration → Phase → Prop where
  | entered (call : Call) : Underway factory base asked call base asked (.entered call)
  | creating (absent : base.engine = none) :
      Underway factory base asked .acquire { base with attempts := base.attempts + 1 }
        (asked ++ [base.configuration]) (.creating base.attempts base.configuration)
  | created {outcome : Except EngineError Engine} (absent : base.engine = none)
      (answered : (factory.create base.attempts base.configuration).value = outcome) :
      Underway factory base asked .acquire { base with attempts := base.attempts + 1 }
        (asked ++ [base.configuration]) (.created base.attempts base.configuration outcome)
  | leaving (call : Call) :
      Underway factory base asked call (call.perform factory base).2
        (asked ++ call.requests base) (.leaving (call.perform factory base).1)

variable {factory : Factory}

/-- Every step inside a call brings it nearer to what it does as a whole. -/
theorem Underway.work {base cache later : Cache} {asked requests more : List Configuration}
    {call : Call} {phase next : Phase}
    (underway : Underway factory base asked call cache requests phase)
    (works : Work factory cache requests phase later more next) :
    Underway factory base asked call later more next := by
  -- The cache is its base until the answer is known, but for the count of attempts.
  cases underway with
  | entered call =>
      cases works with
      | find present =>
          have silent : Call.acquire.requests base = [] := by
            simp [Call.requests, Call.asksFactory, Cache.isBuilt, present]
          have whole : Underway factory base asked .acquire _ _ _ := .leaving .acquire
          rw [Call.perform, Cache.acquire_of_present present, silent, List.append_nil] at whole
          exact whole
      | request absent => exact .creating absent
      | update other =>
          have silent : call.requests base = [] := by
            cases call <;> first | rfl | contradiction
          have whole : Underway factory base asked call _ _ _ := .leaving call
          rw [silent, List.append_nil] at whole
          exact whole
  | creating absent =>
      cases works with
      | finish => exact .created absent rfl
  | created absent answered =>
      have asks : Call.acquire.requests base = [base.configuration] := by
        simp [Call.requests, Call.asksFactory, Cache.isBuilt, absent]
      have whole : Underway factory base asked .acquire _ _ _ := .leaving .acquire
      rw [Call.perform, asks] at whole
      cases works with
      | store =>
          rw [Cache.acquire_of_ok absent answered] at whole
          exact whole
      | fail =>
          rw [Cache.acquire_of_error absent answered] at whole
          exact whole
  | leaving call => cases works

variable [DecidableEq ι]

/-- A step of one task. Only to get the lock does it have to wait for others. -/
inductive Step (factory : Factory) (task : ι) : SharedCache ι → SharedCache ι → Prop where
  | call {shared : SharedCache ι} {call : Call} {rest : List Call}
      (idle : (shared.tasks task).phase = .idle)
      (next : (shared.tasks task).pending = call :: rest) :
      Step factory task shared { shared with
        tasks := Function.update shared.tasks task
          { shared.tasks task with phase := .waiting call, pending := rest } }
  | enter {shared : SharedCache ι} {call : Call}
      (waiting : (shared.tasks task).phase = .waiting call) (free : shared.holder = none) :
      Step factory task shared { shared with
        holder := some task
        turns := shared.turns ++ [(task, call)]
        tasks := Function.update shared.tasks task
          { shared.tasks task with phase := .entered call } }
  | work {shared : SharedCache ι} {cache : Cache} {requests : List Configuration} {phase : Phase}
      (works : Work factory shared.cache shared.requests (shared.tasks task).phase
        cache requests phase) :
      Step factory task shared { shared with
        cache := cache
        requests := requests
        tasks := Function.update shared.tasks task { shared.tasks task with phase := phase } }
  | leave {shared : SharedCache ι} {reply : Reply}
      (leaving : (shared.tasks task).phase = .leaving reply) :
      Step factory task shared { shared with
        holder := none
        tasks := Function.update shared.tasks task { shared.tasks task with
          phase := .idle
          replies := (shared.tasks task).replies ++ [reply] } }

/-- A new cache, and for each task the calls that it will make. -/
def start (initial : Configuration) (program : ι → List Call) : SharedCache ι where
  cache := { configuration := initial }
  tasks := fun task => { pending := program task }

/-- What can come of a new cache when tasks make their calls. -/
inductive Reachable (factory : Factory) (initial : Configuration) (program : ι → List Call) :
    SharedCache ι → Prop where
  | start : Reachable factory initial program (start initial program)
  | step {shared next : SharedCache ι} {task : ι} :
      Reachable factory initial program shared → Step factory task shared next →
        Reachable factory initial program next

/-- Every task has the answers to all its calls. -/
def IsFinished (shared : SharedCache ι) : Prop :=
  ∀ task, (shared.tasks task).phase = .idle ∧ (shared.tasks task).pending = []

/-- The entries of one task. -/
def ofTask {α : Type} (task : ι) (entries : List (ι × α)) : List α :=
  (entries.filter fun entry => entry.1 = task).map Prod.snd

@[simp] theorem ofTask_append {α : Type} (task : ι) (entries more : List (ι × α)) :
    ofTask task (entries ++ more) = ofTask task entries ++ ofTask task more := by
  rw [ofTask, List.filter_append, List.map_append]
  rfl

@[simp] theorem ofTask_singleton_self {α : Type} (task : ι) (value : α) :
    ofTask task [(task, value)] = [value] := by
  simp [ofTask]

theorem ofTask_singleton_of_ne {α : Type} {task other : ι} (different : other ≠ task) (value : α) :
    ofTask task [(other, value)] = [] := by
  simp [ofTask, different]

variable {initial : Configuration} {program : ι → List Call} {shared next : SharedCache ι}
  {task : ι}

theorem Step.tasks_of_ne (step : Step factory task shared next) {other : ι}
    (different : other ≠ task) : next.tasks other = shared.tasks other := by
  cases step <;> exact Function.update_of_ne different _ _

theorem Underway.isOutside_eq_false {base cache : Cache} {asked requests : List Configuration}
    {call : Call} {phase : Phase}
    (underway : Underway factory base asked call cache requests phase) :
    phase.isOutside = false := by
  cases underway <;> rfl

theorem Underway.waiting?_eq_none {base cache : Cache} {asked requests : List Configuration}
    {call : Call} {phase : Phase}
    (underway : Underway factory base asked call cache requests phase) :
    phase.waiting? = none := by
  cases underway <;> rfl

theorem Underway.leaving_inv {base cache : Cache} {asked requests : List Configuration}
    {call : Call} {reply : Reply}
    (underway : Underway factory base asked call cache requests (.leaving reply)) :
    cache = (call.perform factory base).2 ∧ requests = asked ++ call.requests base ∧
      reply = (call.perform factory base).1 := by
  cases underway
  exact ⟨rfl, rfl, rfl⟩

theorem Work.isOutside_eq_false {cache later : Cache} {requests more : List Configuration}
    {phase next : Phase} (works : Work factory cache requests phase later more next) :
    phase.isOutside = false := by
  cases works <;> rfl

/-- The calls that are done were done one after the other, and at most one is under way. -/
structure Serial (factory : Factory) (initial : Configuration) (program : ι → List Call)
    (done : List (ι × Call)) (shared : SharedCache ι) : Prop where
  outside : ∀ task, shared.holder ≠ some task → (shared.tasks task).phase.isOutside = true
  free : shared.holder = none → shared.turns = done ∧
    shared.cache = cacheAfter factory initial done ∧
    shared.requests = requestsOf factory initial done
  held : ∀ task, shared.holder = some task → ∃ call, shared.turns = done ++ [(task, call)] ∧
    Underway factory (cacheAfter factory initial done) (requestsOf factory initial done) call
      shared.cache shared.requests (shared.tasks task).phase
  replies : ∀ task, (shared.tasks task).replies = ofTask task (answersTo factory initial done)
  program : ∀ task, ofTask task shared.turns ++ (shared.tasks task).ahead = program task

theorem serial_start : Serial factory initial program [] (start initial program) where
  outside := fun _ _ => rfl
  free := fun _ => ⟨rfl, rfl, rfl⟩
  held := fun _ isHeld => nomatch isHeld
  replies := fun _ => rfl
  program := fun _ => rfl

/-- Only the task with the lock is inside a call. -/
theorem Serial.holder_eq {done : List (ι × Call)}
    (serial : Serial factory initial program done shared)
    (inside : (shared.tasks task).phase.isOutside = false) : shared.holder = some task := by
  by_contra notHeld
  rw [serial.outside task notHeld] at inside
  contradiction

theorem Serial.holder_ne {done : List (ι × Call)}
    (serial : Serial factory initial program done shared)
    (outside : (shared.tasks task).phase.isOutside = true) : shared.holder ≠ some task := by
  intro isHeld
  obtain ⟨call, _, underway⟩ := serial.held task isHeld
  rw [underway.isOutside_eq_false] at outside
  contradiction

/-- A task that gets no answer leaves the replies as they are. -/
theorem Serial.replies_update {done : List (ι × Call)}
    (serial : Serial factory initial program done shared) {state : Task}
    (same : state.replies = (shared.tasks task).replies) (other : ι) :
    (Function.update shared.tasks task state other).replies =
      ofTask other (answersTo factory initial done) := by
  by_cases isTask : other = task
  · subst isTask
    rw [Function.update_self, same, serial.replies]
  · rw [Function.update_of_ne isTask, serial.replies]

/-- A task that does not get the lock has the same calls ahead of it. -/
theorem Serial.program_update {done : List (ι × Call)}
    (serial : Serial factory initial program done shared) {state : Task}
    (same : state.ahead = (shared.tasks task).ahead) (other : ι) :
    ofTask other shared.turns ++ (Function.update shared.tasks task state other).ahead =
      program other := by
  by_cases isTask : other = task
  · subst isTask
    rw [Function.update_self, same, serial.program]
  · rw [Function.update_of_ne isTask, serial.program]

/-- A task that only waits for the lock changes nothing that is shared. -/
theorem Serial.call {done : List (ι × Call)}
    (serial : Serial factory initial program done shared) {call : Call} {rest : List Call}
    (idle : (shared.tasks task).phase = .idle)
    (pending : (shared.tasks task).pending = call :: rest) :
    Serial factory initial program done { shared with
      tasks := Function.update shared.tasks task
        { shared.tasks task with phase := .waiting call, pending := rest } } := by
  have notHeld : shared.holder ≠ some task := serial.holder_ne (by rw [idle]; rfl)
  have sameAhead : (Task.mk (.waiting call) rest (shared.tasks task).replies).ahead =
      (shared.tasks task).ahead := by
    rw [Task.ahead, Task.ahead, idle, pending]
    rfl
  refine ⟨?_, serial.free, ?_, serial.replies_update rfl, serial.program_update sameAhead⟩
  · exact (Function.forall_update_iff _ fun other (state : Task) =>
      shared.holder ≠ some other → state.phase.isOutside = true).2
        ⟨fun _ => rfl, fun other _ => serial.outside other⟩
  · intro other isHeld
    have different : other ≠ task := by
      rintro rfl
      exact notHeld isHeld
    dsimp only
    rw [Function.update_of_ne different]
    exact serial.held other isHeld

/-- The task that gets the lock begins its call on what the calls before have left. -/
theorem Serial.enter {done : List (ι × Call)}
    (serial : Serial factory initial program done shared) {call : Call}
    (waiting : (shared.tasks task).phase = .waiting call) (free : shared.holder = none) :
    Serial factory initial program done { shared with
      holder := some task
      turns := shared.turns ++ [(task, call)]
      tasks := Function.update shared.tasks task
        { shared.tasks task with phase := .entered call } } := by
  obtain ⟨turns, cache, requests⟩ := serial.free free
  have whole := serial.program task
  rw [Task.ahead, waiting] at whole
  refine ⟨?_, fun isFree => (nomatch isFree), ?_, serial.replies_update rfl, ?_⟩
  · refine (Function.forall_update_iff _ fun other (state : Task) =>
      some task ≠ some other → state.phase.isOutside = true).2
        ⟨fun notHeld => absurd rfl notHeld, ?_⟩
    intro other _ _
    exact serial.outside other (by simp [free])
  · rintro other ⟨⟩
    refine ⟨call, congrArg (· ++ [(task, call)]) turns, ?_⟩
    dsimp only
    rw [Function.update_self, cache, requests]
    exact .entered call
  · refine (Function.forall_update_iff _ fun other (state : Task) =>
      ofTask other (shared.turns ++ [(task, call)]) ++ state.ahead = program other).2 ⟨?_, ?_⟩
    · rw [ofTask_append, ofTask_singleton_self, List.append_assoc]
      exact whole
    · intro other different
      rw [ofTask_append, ofTask_singleton_of_ne different.symm, List.append_nil]
      exact serial.program other

theorem Serial.work {done : List (ι × Call)}
    (serial : Serial factory initial program done shared) {cache : Cache}
    {requests : List Configuration} {phase : Phase}
    (works : Work factory shared.cache shared.requests (shared.tasks task).phase
      cache requests phase) :
    Serial factory initial program done { shared with
      cache := cache
      requests := requests
      tasks := Function.update shared.tasks task { shared.tasks task with phase := phase } } := by
  have isHeld : shared.holder = some task := serial.holder_eq works.isOutside_eq_false
  obtain ⟨call, turns, underway⟩ := serial.held task isHeld
  have further := underway.work works
  have sameAhead : ({ shared.tasks task with phase := phase } : Task).ahead =
      (shared.tasks task).ahead := by
    rw [Task.ahead, Task.ahead, underway.waiting?_eq_none, further.waiting?_eq_none]
  refine ⟨?_, fun isFree => (nomatch isHeld.symm.trans isFree), ?_, serial.replies_update rfl,
    serial.program_update sameAhead⟩
  · exact (Function.forall_update_iff _ fun other (state : Task) =>
      shared.holder ≠ some other → state.phase.isOutside = true).2
        ⟨fun notHeld => absurd isHeld notHeld, fun other _ => serial.outside other⟩
  · intro other otherHeld
    obtain rfl : task = other := Option.some.inj (isHeld.symm.trans otherHeld)
    refine ⟨call, turns, ?_⟩
    dsimp only
    rw [Function.update_self]
    exact further

/-- The task that gives the lock back has done the whole call. -/
theorem Serial.leave {done : List (ι × Call)}
    (serial : Serial factory initial program done shared) {reply : Reply}
    (leaving : (shared.tasks task).phase = .leaving reply) :
    Serial factory initial program shared.turns { shared with
      holder := none
      tasks := Function.update shared.tasks task { shared.tasks task with
        phase := .idle
        replies := (shared.tasks task).replies ++ [reply] } } := by
  have sameAhead : (Task.mk .idle (shared.tasks task).pending
      ((shared.tasks task).replies ++ [reply])).ahead = (shared.tasks task).ahead := by
    rw [Task.ahead, Task.ahead, leaving]
    rfl
  have isHeld : shared.holder = some task := serial.holder_eq (by rw [leaving]; rfl)
  obtain ⟨call, turns, underway⟩ := serial.held task isHeld
  rw [leaving] at underway
  obtain ⟨cache, requests, rfl⟩ := underway.leaving_inv
  refine ⟨?_, fun _ => ⟨rfl, ?_, ?_⟩, fun _ isHeld => (nomatch isHeld), ?_,
    serial.program_update sameAhead⟩
  · refine (Function.forall_update_iff _ fun other (state : Task) =>
      none ≠ some other → state.phase.isOutside = true).2 ⟨fun _ => rfl, ?_⟩
    intro other different _
    refine serial.outside other ?_
    rw [isHeld]
    exact fun same => different (Option.some.inj same).symm
  · rw [turns, cacheAfter_concat]
    exact cache
  · rw [turns, requestsOf_concat]
    exact requests
  · refine (Function.forall_update_iff _ fun other (state : Task) =>
      state.replies = ofTask other (answersTo factory initial shared.turns)).2 ⟨?_, ?_⟩
    · rw [turns, answersTo_concat, ofTask_append, ofTask_singleton_self, serial.replies]
    · intro other different
      rw [turns, answersTo_concat, ofTask_append, ofTask_singleton_of_ne different.symm,
        List.append_nil, serial.replies]

theorem Serial.step {done : List (ι × Call)}
    (serial : Serial factory initial program done shared) (step : Step factory task shared next) :
    ∃ done, Serial factory initial program done next := by
  cases step with
  -- Only where the lock is given back is one more call done.
  | call idle pending => exact ⟨done, serial.call idle pending⟩
  | enter waiting free => exact ⟨done, serial.enter waiting free⟩
  | work works => exact ⟨done, serial.work works⟩
  | leave leaving => exact ⟨shared.turns, serial.leave leaving⟩

theorem Reachable.serial (reachable : Reachable factory initial program shared) :
    ∃ done, Serial factory initial program done shared := by
  induction reachable with
  | start => exact ⟨[], serial_start⟩
  | step _ step inductionHypothesis =>
      obtain ⟨done, serial⟩ := inductionHypothesis
      exact serial.step step

end SharedCache

end Listings

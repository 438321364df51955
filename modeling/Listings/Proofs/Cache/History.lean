/-
This file follows a cache through any sequence of calls: which configuration it has, when it asks
the factory, and for how long it hands out one and the same engine.
-/

import Listings.Cache
import Listings.Engine.Keyword

namespace Listings.Cache

/-- What can be asked of a cache. -/
inductive Call where
  | configure (next : Configuration)
  | invalidate
  | acquire
  | readConfiguration
  | readBuilt
deriving DecidableEq

/-- What a cache answers. -/
inductive Reply where
  | done
  | engine (outcome : Except EngineError BuiltEngine)
  | configuration (value : Configuration)
  | built (isBuilt : Bool)

def Reply.givesEngine : Reply → Bool
  | engine (.ok _) => true
  | _ => false

namespace Call

def perform (factory : Factory) (cache : Cache) : Call → Reply × Cache
  | configure next => (.done, (cache.setConfiguration next).value)
  | invalidate => (.done, cache.invalidate)
  | acquire =>
      let outcome := (cache.acquire factory).value
      (.engine outcome.1, outcome.2)
  | readConfiguration => (.configuration cache.configuration, cache)
  | readBuilt => (.built cache.isBuilt, cache)

/-- Only a call for the engine that finds none asks the factory. -/
def asksFactory (cache : Cache) : Call → Bool
  | acquire => !cache.isBuilt
  | _ => false

/-- The configuration that the call brings. -/
def configuration? : Call → Option Configuration
  | configure next => some next
  | _ => none

/-- The configuration after the call. -/
def newConfiguration (current : Configuration) (call : Call) : Configuration :=
  call.configuration?.getD current

/-- The call gives up the engine of a cache with the current configuration. -/
def drops (current : Configuration) : Call → Bool
  | configure next => next ≠ current
  | invalidate => true
  | _ => false

end Call

/-- The configuration that was set last. -/
def lastConfiguration (initial : Configuration) (calls : List Call) : Configuration :=
  (calls.filterMap Call.configuration?).getLastD initial

/-- Some call gives up the engine; those before it may have changed the configuration. -/
def someDrops (current : Configuration) : List Call → Bool
  | [] => false
  | call :: rest => call.drops current || someDrops (call.newConfiguration current) rest

/-- A call with the cache that it found and the answer that it got. -/
structure Event where
  found : Cache
  call : Call
  reply : Reply

namespace Event

def asksFactory (event : Event) : Bool := event.call.asksFactory event.found

/-- The factory was asked and gave an engine. -/
def constructs (event : Event) : Bool := event.asksFactory && event.reply.givesEngine

end Event

/-- The cache after some calls. -/
def after (factory : Factory) (cache : Cache) (calls : List Call) : Cache :=
  calls.foldl (fun cache call => (call.perform factory cache).2) cache

/-- What happens when a cache is called. -/
def Call.event (factory : Factory) (cache : Cache) (call : Call) : Event :=
  ⟨cache, call, (call.perform factory cache).1⟩

/-- All that happens in the course of some calls. -/
def events (factory : Factory) : Cache → List Call → List Event
  | _, [] => []
  | cache, call :: rest =>
      call.event factory cache :: events factory (call.perform factory cache).2 rest

variable {factory : Factory} {cache : Cache}

theorem acquire_of_present {built : BuiltEngine} (present : cache.engine = some built) :
    (cache.acquire factory).value =
      (.ok { built with configuration := cache.configuration }, cache) := by
  rw [acquire, present]
  rfl

theorem acquire_of_error (absent : cache.engine = none) {error : EngineError}
    (failed : (factory.create cache.attempts cache.configuration).value = .error error) :
    (cache.acquire factory).value =
      (.error error, { cache with attempts := cache.attempts + 1 }) := by
  simp only [acquire, absent, build, failed]

theorem acquire_of_ok (absent : cache.engine = none) {engine : Engine}
    (created : (factory.create cache.attempts cache.configuration).value = .ok engine) :
    (cache.acquire factory).value =
      (.ok ⟨cache.attempts, cache.configuration, engine⟩,
        { cache with
          engine := some ⟨cache.attempts, cache.configuration, engine⟩
          attempts := cache.attempts + 1
          builds := cache.builds + 1 }) := by
  simp only [acquire, absent, build, created]

/-- Asking for the engine finds it, or fails to make it, or makes it. -/
theorem acquire_cases (factory : Factory) (cache : Cache) :
    (∃ built, cache.engine = some built ∧ (cache.acquire factory).value =
      (.ok { built with configuration := cache.configuration }, cache)) ∨
    (∃ error, cache.engine = none ∧
      (factory.create cache.attempts cache.configuration).value = .error error ∧
      (cache.acquire factory).value =
        (.error error, { cache with attempts := cache.attempts + 1 })) ∨
    ∃ engine, cache.engine = none ∧
      (factory.create cache.attempts cache.configuration).value = .ok engine ∧
      (cache.acquire factory).value =
        (.ok ⟨cache.attempts, cache.configuration, engine⟩,
          { cache with
            engine := some ⟨cache.attempts, cache.configuration, engine⟩
            attempts := cache.attempts + 1
            builds := cache.builds + 1 }) := by
  rcases Option.eq_none_or_eq_some cache.engine with absent | ⟨built, present⟩
  · cases created : (factory.create cache.attempts cache.configuration).value with
    | error error => exact Or.inr (Or.inl ⟨error, absent, rfl, acquire_of_error absent created⟩)
    | ok engine => exact Or.inr (Or.inr ⟨engine, absent, rfl, acquire_of_ok absent created⟩)
  · exact Or.inl ⟨built, present, acquire_of_present present⟩

/-- A call leaves the cache alone, or gives up its engine, or asks the factory for one. -/
theorem perform_cases (factory : Factory) (cache : Cache) (call : Call) :
    (call.drops cache.configuration = false ∧ call.asksFactory cache = false ∧
      call.newConfiguration cache.configuration = cache.configuration ∧
      (call.perform factory cache).2 = cache) ∨
    (call.drops cache.configuration = true ∧ call.asksFactory cache = false ∧
      (call.perform factory cache).2 = { cache with
        configuration := call.newConfiguration cache.configuration
        engine := none }) ∨
    (call = .acquire ∧ cache.engine = none ∧
      ∃ error, (factory.create cache.attempts cache.configuration).value = .error error ∧
        call.perform factory cache =
          (.engine (.error error), { cache with attempts := cache.attempts + 1 })) ∨
    (call = .acquire ∧ cache.engine = none ∧
      ∃ engine, (factory.create cache.attempts cache.configuration).value = .ok engine ∧
        call.perform factory cache =
          (.engine (.ok ⟨cache.attempts, cache.configuration, engine⟩), { cache with
            engine := some ⟨cache.attempts, cache.configuration, engine⟩
            attempts := cache.attempts + 1
            builds := cache.builds + 1 })) := by
  cases call with
  | configure next =>
      by_cases same : cache.configuration = next
      · refine Or.inl ⟨by simp [Call.drops, same], rfl, same.symm, ?_⟩
        simp only [Call.perform, setConfiguration, if_pos same]
        rfl
      · refine Or.inr (Or.inl ⟨by simp [Call.drops, Ne.symm same], rfl, ?_⟩)
        simp only [Call.perform, setConfiguration, if_neg same]
        rfl
  | invalidate => exact Or.inr (Or.inl ⟨rfl, rfl, rfl⟩)
  | acquire =>
      rcases acquire_cases factory cache with
        ⟨built, present, outcome⟩ | ⟨error, absent, failed, outcome⟩ |
          ⟨engine, absent, created, outcome⟩
      · refine Or.inl ⟨rfl, ?_, rfl, ?_⟩
        · simp [Call.asksFactory, isBuilt, present]
        · rw [Call.perform, outcome]
      · refine Or.inr (Or.inr (Or.inl ⟨rfl, absent, error, failed, ?_⟩))
        rw [Call.perform, outcome]
      · refine Or.inr (Or.inr (Or.inr ⟨rfl, absent, engine, created, ?_⟩))
        rw [Call.perform, outcome]
  | readConfiguration => exact Or.inl ⟨rfl, rfl, rfl, rfl⟩
  | readBuilt => exact Or.inl ⟨rfl, rfl, rfl, rfl⟩

theorem configuration_perform (factory : Factory) (cache : Cache) (call : Call) :
    (call.perform factory cache).2.configuration = call.newConfiguration cache.configuration := by
  rcases perform_cases factory cache call with
    ⟨_, _, same, outcome⟩ | ⟨_, _, outcome⟩ | ⟨rfl, _, _, _, outcome⟩ | ⟨rfl, _, _, _, outcome⟩
  · rw [outcome, same]
  · rw [outcome]
  · rw [outcome]
    rfl
  · rw [outcome]
    rfl

theorem lastConfiguration_cons (initial : Configuration) (call : Call) (rest : List Call) :
    lastConfiguration initial (call :: rest) =
      lastConfiguration (call.newConfiguration initial) rest := by
  unfold lastConfiguration Call.newConfiguration
  cases brought : call.configuration? with
  | none => rw [List.filterMap_cons_none brought, Option.getD_none]
  | some next => rw [List.filterMap_cons_some brought, List.getLastD_cons, Option.getD_some]

theorem configuration_after (factory : Factory) (cache : Cache) (calls : List Call) :
    (after factory cache calls).configuration = lastConfiguration cache.configuration calls := by
  induction calls generalizing cache with
  | nil => rfl
  | cons call rest inductionHypothesis =>
      rw [lastConfiguration_cons, ← configuration_perform factory, ← inductionHypothesis]
      rfl

/-- What is built was made by an earlier attempt and for the current configuration. -/
structure Coherent (factory : Factory) (cache : Cache) : Prop where
  current : ∀ built ∈ cache.engine, built.configuration = cache.configuration
  made : ∀ built ∈ cache.engine,
    (factory.create built.attempt built.configuration).value = .ok built.engine
  earlier : ∀ built ∈ cache.engine, built.attempt < cache.attempts

theorem coherent_of_engine_eq_none (absent : cache.engine = none) : Coherent factory cache := by
  constructor <;> simp [absent]

theorem Coherent.perform (coherent : Coherent factory cache) (call : Call) :
    Coherent factory (call.perform factory cache).2 := by
  rcases perform_cases factory cache call with
    ⟨_, _, _, outcome⟩ | ⟨_, _, outcome⟩ | ⟨rfl, absent, _, _, outcome⟩ |
      ⟨rfl, _, engine, created, outcome⟩
  · rwa [outcome]
  · rw [outcome]
    exact coherent_of_engine_eq_none rfl
  · rw [outcome]
    exact coherent_of_engine_eq_none absent
  · rw [outcome]
    refine ⟨?_, ?_, ?_⟩ <;> intro built member <;> cases member
    · rfl
    · exact created
    · exact Nat.lt_succ_self _

theorem Coherent.after (coherent : Coherent factory cache) (calls : List Call) :
    Coherent factory (after factory cache calls) := by
  induction calls generalizing cache with
  | nil => exact coherent
  | cons call rest inductionHypothesis => exact inductionHypothesis (coherent.perform call)

/-- A coherent cache hands out what it then holds. -/
theorem Coherent.acquire (coherent : Coherent factory cache) {built : BuiltEngine} {next : Cache}
    (acquired : Call.acquire.perform factory cache = (.engine (.ok built), next)) :
    next.engine = some built ∧ built.configuration = cache.configuration ∧
      next.configuration = cache.configuration := by
  rw [Call.perform, Prod.mk.injEq, Reply.engine.injEq] at acquired
  obtain ⟨answered, rfl⟩ := acquired
  rcases acquire_cases factory cache with
    ⟨present, isPresent, outcome⟩ | ⟨error, _, _, outcome⟩ | ⟨engine, _, _, outcome⟩
  · rw [outcome] at answered ⊢
    cases answered
    have same := coherent.current present isPresent
    exact ⟨same ▸ isPresent, rfl, rfl⟩
  · rw [outcome] at answered
    contradiction
  · rw [outcome] at answered ⊢
    cases answered
    exact ⟨rfl, rfl, rfl⟩

/-- A cache with an engine stays as it is until some call gives the engine up. -/
theorem after_eq_self {built : BuiltEngine} (present : cache.engine = some built)
    {calls : List Call} (kept : someDrops cache.configuration calls = false) :
    after factory cache calls = cache := by
  induction calls with
  | nil => rfl
  | cons call rest inductionHypothesis =>
      rw [someDrops, Bool.or_eq_false_iff, ← configuration_perform factory] at kept
      rcases perform_cases factory cache call with
        ⟨_, _, _, outcome⟩ | ⟨dropped, _⟩ | ⟨_, absent, _⟩ | ⟨_, absent, _⟩
      · change after factory (call.perform factory cache).2 rest = cache
        rw [outcome] at kept ⊢
        exact inductionHypothesis kept.2
      · rw [kept.1] at dropped
        contradiction
      · rw [present] at absent
        contradiction
      · rw [present] at absent
        contradiction

/-- Neither an engine in the cache nor one to come is from before the attempt. -/
structure Since (attempt : Nat) (cache : Cache) : Prop where
  begun : attempt ≤ cache.attempts
  since : ∀ built ∈ cache.engine, attempt ≤ built.attempt

theorem Since.perform {attempt : Nat} (since : Since attempt cache) (call : Call) :
    Since attempt (call.perform factory cache).2 := by
  rcases perform_cases factory cache call with
    ⟨_, _, _, outcome⟩ | ⟨_, _, outcome⟩ | ⟨rfl, absent, _, _, outcome⟩ | ⟨rfl, _, _, _, outcome⟩
  · rwa [outcome]
  · rw [outcome]
    exact ⟨since.begun, by simp⟩
  · rw [outcome]
    exact ⟨Nat.le_succ_of_le since.begun, since.since⟩
  · rw [outcome]
    refine ⟨Nat.le_succ_of_le since.begun, ?_⟩
    intro built member
    cases member
    exact since.begun

theorem Since.after {attempt : Nat} (since : Since attempt cache) (calls : List Call) :
    Since attempt (after factory cache calls) := by
  induction calls generalizing cache with
  | nil => exact since
  | cons call rest inductionHypothesis => exact inductionHypothesis (since.perform call)

/-- Once an engine is given up, every later one comes from a later attempt. -/
theorem since_after_of_someDrops {calls : List Call}
    (dropped : someDrops cache.configuration calls = true) :
    Since cache.attempts (after factory cache calls) := by
  suffices later : ∀ attempt ≤ cache.attempts, Since attempt (after factory cache calls) from
    later _ (Nat.le_refl _)
  intro attempt begun
  induction calls generalizing cache with
  | nil => contradiction
  | cons call rest inductionHypothesis =>
      rw [someDrops, Bool.or_eq_true, ← configuration_perform factory] at dropped
      have next : attempt ≤ (call.perform factory cache).2.attempts := by
        rcases perform_cases factory cache call with
          ⟨_, _, _, outcome⟩ | ⟨_, _, outcome⟩ | ⟨rfl, _, _, _, outcome⟩ |
            ⟨rfl, _, _, _, outcome⟩
        · rwa [outcome]
        · rwa [outcome]
        · rw [outcome]
          exact Nat.le_succ_of_le begun
        · rw [outcome]
          exact Nat.le_succ_of_le begun
      rcases dropped with here | later
      · have sinceNext : Since attempt (call.perform factory cache).2 := by
          refine ⟨next, ?_⟩
          rcases perform_cases factory cache call with
            ⟨kept, _⟩ | ⟨_, _, outcome⟩ | ⟨rfl, _⟩ | ⟨rfl, _⟩
          · rw [here] at kept
            contradiction
          · rw [outcome]
            simp
          · contradiction
          · contradiction
        exact sinceNext.after rest
      · exact inductionHypothesis later next

/-- A call that does not ask the factory does the same with any other one. -/
theorem perform_eq_of_not_asksFactory {call : Call} (silent : call.asksFactory cache = false)
    (other : Factory) : call.perform other cache = call.perform factory cache := by
  cases call with
  | acquire =>
      rw [Call.asksFactory, Bool.not_eq_false', isBuilt, Option.isSome_iff_exists] at silent
      obtain ⟨built, present⟩ := silent
      simp only [Call.perform, Cache.acquire, present]
  | configure next => rfl
  | invalidate => rfl
  | readConfiguration => rfl
  | readBuilt => rfl

/-- A call that asks the factory answers what this attempt gives. -/
theorem reply_of_asksFactory {call : Call} (asks : call.asksFactory cache = true) :
    (call.perform factory cache).1 =
      .engine ((factory.create cache.attempts cache.configuration).value.map fun engine =>
        ⟨cache.attempts, cache.configuration, engine⟩) := by
  rcases perform_cases factory cache call with
    ⟨_, silent, _⟩ | ⟨_, silent, _⟩ | ⟨_, _, error, failed, outcome⟩ |
      ⟨_, _, engine, created, outcome⟩
  · rw [asks] at silent
    contradiction
  · rw [asks] at silent
    contradiction
  · rw [outcome, failed]
    rfl
  · rw [outcome, created]
    rfl

/-- The cache counts an attempt where the factory is asked, and a build where it gives an engine. -/
theorem counts_perform (factory : Factory) (cache : Cache) (call : Call) :
    (call.perform factory cache).2.attempts =
        cache.attempts + (call.event factory cache).asksFactory.toNat ∧
      (call.perform factory cache).2.builds =
        cache.builds + (call.event factory cache).constructs.toNat := by
  unfold Event.constructs Event.asksFactory Call.event
  dsimp only
  rcases perform_cases factory cache call with
    ⟨_, silent, _, outcome⟩ | ⟨_, silent, outcome⟩ | ⟨rfl, absent, _, _, outcome⟩ |
      ⟨rfl, absent, _, _, outcome⟩
  · rw [outcome, silent]
    exact ⟨rfl, rfl⟩
  · rw [outcome, silent]
    exact ⟨rfl, rfl⟩
  · rw [outcome, Call.asksFactory, isBuilt, absent]
    exact ⟨rfl, rfl⟩
  · rw [outcome, Call.asksFactory, isBuilt, absent]
    exact ⟨rfl, rfl⟩

/-- A counter that each call advances by what happens counts what happens in all of them. -/
theorem counter_after {counter : Cache → Nat} {counted : Event → Bool}
    (advances : ∀ (cache : Cache) (call : Call), counter (call.perform factory cache).2 =
      counter cache + (counted (call.event factory cache)).toNat)
    (cache : Cache) (calls : List Call) :
    counter (after factory cache calls) =
      counter cache + (events factory cache calls).countP counted := by
  induction calls generalizing cache with
  | nil => rfl
  | cons call rest inductionHypothesis =>
      have first := advances cache call
      have further := inductionHypothesis (call.perform factory cache).2
      have counts : (if counted (call.event factory cache) then 1 else 0) =
          (counted (call.event factory cache)).toNat := by
        cases counted (call.event factory cache) <;> rfl
      rw [events, List.countP_cons, counts]
      change counter (after factory (call.perform factory cache).2 rest) = _
      omega

theorem attempts_after (factory : Factory) (cache : Cache) (calls : List Call) :
    (after factory cache calls).attempts =
      cache.attempts + (events factory cache calls).countP Event.asksFactory :=
  counter_after (fun cache call => (counts_perform factory cache call).1) cache calls

theorem builds_after (factory : Factory) (cache : Cache) (calls : List Call) :
    (after factory cache calls).builds =
      cache.builds + (events factory cache calls).countP Event.constructs :=
  counter_after (fun cache call => (counts_perform factory cache call).2) cache calls

/-- Between two drops the factory gives at most one engine. -/
theorem builds_after_le {calls : List Call}
    (kept : someDrops cache.configuration calls = false) :
    (after factory cache calls).builds ≤ cache.builds + 1 := by
  induction calls generalizing cache with
  | nil => exact Nat.le_succ _
  | cons call rest inductionHypothesis =>
      rw [someDrops, Bool.or_eq_false_iff, ← configuration_perform factory] at kept
      change (after factory (call.perform factory cache).2 rest).builds ≤ _
      rcases perform_cases factory cache call with
        ⟨_, _, _, outcome⟩ | ⟨dropped, _⟩ | ⟨_, _, _, _, outcome⟩ | ⟨_, _, _, _, outcome⟩
      · have bounded := inductionHypothesis kept.2
        rwa [outcome] at bounded ⊢
      · rw [kept.1] at dropped
        contradiction
      · have bounded := inductionHypothesis kept.2
        rwa [outcome] at bounded ⊢
      · rw [outcome] at kept ⊢
        exact Nat.le_of_eq (congrArg Cache.builds (after_eq_self rfl kept.2))

/-- Only a call for the engine can fill an empty cache. -/
theorem engine_after_eq_none (absent : cache.engine = none) {calls : List Call}
    (noAcquire : .acquire ∉ calls) : (after factory cache calls).engine = none := by
  induction calls generalizing cache with
  | nil => exact absent
  | cons call rest inductionHypothesis =>
      rw [List.mem_cons, not_or] at noAcquire
      have still : (call.perform factory cache).2.engine = none := by
        rcases perform_cases factory cache call with
          ⟨_, _, _, outcome⟩ | ⟨_, _, outcome⟩ | ⟨asked, _⟩ | ⟨asked, _⟩
        · rwa [outcome]
        · rw [outcome]
        · exact absurd asked.symm noAcquire.1
        · exact absurd asked.symm noAcquire.1
      exact inductionHypothesis still noAcquire.2

section

variable {first second : BuiltEngine} {next last : Cache} {between : List Call}

theorem Coherent.second_eq_first (coherent : Coherent factory cache)
    (acquired : Call.acquire.perform factory cache = (.engine (.ok first), next))
    (again : Call.acquire.perform factory (Cache.after factory next between) =
      (.engine (.ok second), last))
    (kept : someDrops cache.configuration between = false) : first = second := by
  obtain ⟨present, _, same⟩ := coherent.acquire acquired
  have coherentNext := coherent.perform .acquire
  rw [acquired] at coherentNext
  rw [← same] at kept
  rw [after_eq_self present kept] at again
  have unchanged : Cache.after factory next [.acquire] = next := after_eq_self present rfl
  change (Call.acquire.perform factory next).2 = next at unchanged
  rw [again] at unchanged
  subst unchanged
  exact Option.some.inj (present.symm.trans (coherentNext.acquire again).1)

theorem Coherent.first_lt_second (coherent : Coherent factory cache)
    (acquired : Call.acquire.perform factory cache = (.engine (.ok first), next))
    (again : Call.acquire.perform factory (Cache.after factory next between) =
      (.engine (.ok second), last))
    (dropped : someDrops cache.configuration between = true) : first.attempt < second.attempt := by
  obtain ⟨present, _, same⟩ := coherent.acquire acquired
  have coherentNext := coherent.perform .acquire
  rw [acquired] at coherentNext
  have presentLast := ((coherentNext.after between).acquire again).1
  rw [← same] at dropped
  have between : Since next.attempts (Cache.after factory next between) :=
    since_after_of_someDrops dropped
  have since : Since next.attempts (Call.acquire.perform factory _).2 := between.perform .acquire
  rw [again] at since
  exact Nat.lt_of_lt_of_le (coherentNext.earlier first present) (since.since second presentLast)

/-- Two engines handed out are one exactly if no call between them gives it up. -/
theorem Coherent.acquire_twice (coherent : Coherent factory cache)
    (acquired : Call.acquire.perform factory cache = (.engine (.ok first), next))
    (again : Call.acquire.perform factory (Cache.after factory next between) =
      (.engine (.ok second), last)) :
    (first = second ↔ someDrops cache.configuration between = false) ∧
      (first.attempt = second.attempt ↔ someDrops cache.configuration between = false) := by
  cases dropped : someDrops cache.configuration between with
  | false =>
      have same := coherent.second_eq_first acquired again dropped
      exact ⟨iff_of_true same rfl, iff_of_true (congrArg BuiltEngine.attempt same) rfl⟩
  | true =>
      have later := coherent.first_lt_second acquired again dropped
      have different : first ≠ second := fun same =>
        Nat.ne_of_lt later (congrArg BuiltEngine.attempt same)
      exact ⟨iff_of_false different Bool.noConfusion,
        iff_of_false (Nat.ne_of_lt later) Bool.noConfusion⟩

end

/-- A failure leaves the configuration, and no engine. -/
theorem perform_acquire_error {error : EngineError} {next : Cache}
    (failed : Call.acquire.perform factory cache = (.engine (.error error), next)) :
    next.configuration = cache.configuration ∧ next.engine = none := by
  rw [Call.perform, Prod.mk.injEq, Reply.engine.injEq] at failed
  obtain ⟨answered, rfl⟩ := failed
  rcases acquire_cases factory cache with
    ⟨_, _, outcome⟩ | ⟨_, absent, _, outcome⟩ | ⟨_, _, _, outcome⟩
  · rw [outcome] at answered
    contradiction
  · rw [outcome]
    exact ⟨rfl, absent⟩
  · rw [outcome] at answered
    contradiction

/-- A cache asks for one engine at a time and keeps it for as long as it may be used: its
configuration is the one set last, what it hands out was made for that configuration, two engines
are one exactly if nothing between them gave it up, the factory is asked only where there is no
engine, and a failure leaves everything as it was. -/
theorem one_engine_between_drops (factory : Factory) (initial : Configuration)
    (calls : List Call) :
    let start : Cache := { configuration := initial }
    let cache := after factory start calls
    (Call.readConfiguration.perform factory cache).1 =
      .configuration (lastConfiguration initial calls) ∧
    (∀ built ∈ cache.engine, built.configuration = cache.configuration ∧
      (factory.create built.attempt cache.configuration).value = .ok built.engine) ∧
    (∀ first next, Call.acquire.perform factory cache = (.engine (.ok first), next) →
      next.engine = some first ∧ first.configuration = cache.configuration ∧
      next.configuration = cache.configuration ∧
      ∀ between second last,
        Call.acquire.perform factory (after factory next between) =
          (.engine (.ok second), last) →
        ((first = second ↔ someDrops cache.configuration between = false) ∧
          (first.attempt = second.attempt ↔ someDrops cache.configuration between = false))) ∧
    -- Which calls ask the factory, and what comes of it.
    cache.attempts = (events factory start calls).countP Event.asksFactory ∧
    (∀ call : Call, call.asksFactory cache = true → (call.perform factory cache).1 =
      .engine ((factory.create cache.attempts cache.configuration).value.map fun engine =>
        ⟨cache.attempts, cache.configuration, engine⟩)) ∧
    (∀ call : Call, call.asksFactory cache = false →
      ∀ other, call.perform other cache = call.perform factory cache) ∧
    (∀ between, someDrops cache.configuration between = false →
      (events factory cache between).countP Event.constructs ≤ 1) ∧
    -- What a failure leaves behind.
    (∀ error next, Call.acquire.perform factory cache = (.engine (.error error), next) →
      next.configuration = cache.configuration ∧ next.isBuilt = false ∧
      ∀ between, .acquire ∉ between →
        Call.acquire.asksFactory (after factory next between) = true) := by
  intro start cache
  have coherentStart : Coherent factory start := coherent_of_engine_eq_none rfl
  have coherent : Coherent factory cache := coherentStart.after calls
  refine ⟨?_, ?_, ?_, ?_, ?_, ?_, ?_, ?_⟩
  · exact congrArg Reply.configuration (configuration_after factory start calls)
  · intro built present
    exact ⟨coherent.current built present,
      coherent.current built present ▸ coherent.made built present⟩
  · intro first next acquired
    obtain ⟨present, configuration, same⟩ := coherent.acquire acquired
    refine ⟨present, configuration, same, ?_⟩
    intro between second last again
    exact coherent.acquire_twice acquired again
  · exact (attempts_after factory start calls).trans (Nat.zero_add _)
  · intro call asks
    exact reply_of_asksFactory asks
  · intro call silent other
    exact perform_eq_of_not_asksFactory silent other
  · intro between kept
    have bounded : (after factory cache between).builds ≤ cache.builds + 1 := builds_after_le kept
    rw [builds_after] at bounded
    omega
  · intro error next failed
    obtain ⟨same, absent⟩ := perform_acquire_error failed
    refine ⟨same, Option.isSome_eq_false_iff.2 (Option.isNone_iff_eq_none.2 absent), ?_⟩
    intro between noAcquire
    rw [Call.asksFactory, isBuilt, engine_after_eq_none absent noAcquire]
    rfl

theorem one_engine_between_drops_when_set_back :
    ∃ first second next last,
      Call.acquire.perform Keyword.factory { configuration := ⟨["light"]⟩ } =
        (.engine (.ok first), next) ∧
      Call.acquire.perform Keyword.factory (after Keyword.factory next
        [.configure ⟨["missing"]⟩, .acquire, .configure ⟨["light"]⟩]) =
          (.engine (.ok second), last) ∧
      first.configuration = second.configuration ∧ first.attempt ≠ second.attempt := by
  obtain ⟨first, next, acquired⟩ : ∃ first next,
      Call.acquire.perform Keyword.factory { configuration := ⟨["light"]⟩ } =
        (.engine (.ok first), next) := ⟨_, _, rfl⟩
  obtain ⟨second, last, again⟩ : ∃ second last,
      Call.acquire.perform Keyword.factory (after Keyword.factory next
        [.configure ⟨["missing"]⟩, .acquire, .configure ⟨["light"]⟩]) =
          (.engine (.ok second), last) := by
    cases acquired
    exact ⟨_, _, rfl⟩
  obtain ⟨_, _, engines, _⟩ := one_engine_between_drops Keyword.factory ⟨["light"]⟩ []
  obtain ⟨_, configuration, _, twice⟩ := engines first next acquired
  have different := mt (twice _ second last again).2.1 (by decide)
  refine ⟨first, second, next, last, acquired, again, configuration.trans ?_, different⟩
  cases acquired
  cases again
  rfl

end Listings.Cache

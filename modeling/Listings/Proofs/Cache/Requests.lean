/-
This file says what a cache asks its factory for in the course of some calls, and what comes of it
when all of them are calls for the engine.
-/

import Listings.Proofs.Cache.History

namespace Listings.Cache

/-- What the call asks the factory for. -/
def Call.requests (cache : Cache) (call : Call) : List Configuration :=
  if call.asksFactory cache then [cache.configuration] else []

/-- What the factory is asked for in the course of some calls. -/
def requested (factory : Factory) : Cache → List Call → List Configuration
  | _, [] => []
  | cache, call :: rest =>
      call.requests cache ++ requested factory (call.perform factory cache).2 rest

variable {factory : Factory} {cache : Cache}

theorem after_append (cache : Cache) (calls more : List Call) :
    after factory cache (calls ++ more) = after factory (after factory cache calls) more :=
  List.foldl_append

theorem events_append (cache : Cache) (calls more : List Call) :
    events factory cache (calls ++ more) =
      events factory cache calls ++ events factory (after factory cache calls) more := by
  induction calls generalizing cache with
  | nil => rfl
  | cons call rest inductionHypothesis =>
      rw [List.cons_append, events, inductionHypothesis]
      rfl

theorem length_events (cache : Cache) (calls : List Call) :
    (events factory cache calls).length = calls.length := by
  induction calls generalizing cache with
  | nil => rfl
  | cons call rest inductionHypothesis =>
      rw [events, List.length_cons, List.length_cons, inductionHypothesis]

theorem requested_append (cache : Cache) (calls more : List Call) :
    requested factory cache (calls ++ more) =
      requested factory cache calls ++ requested factory (after factory cache calls) more := by
  induction calls generalizing cache with
  | nil => rfl
  | cons call rest inductionHypothesis =>
      rw [List.cons_append, requested, inductionHypothesis, requested, List.append_assoc]
      rfl

/-- The requests belong to the attempts, and the engine in the cache to one of them. -/
structure Recorded (factory : Factory) (requests : List Configuration) (cache : Cache) : Prop where
  coherent : Coherent factory cache
  length : requests.length = cache.attempts
  request : ∀ built ∈ cache.engine, requests[built.attempt]? = some built.configuration

theorem getElem?_append_of_eq_some {requests more : List Configuration} {attempt : Nat}
    {configuration : Configuration} (found : requests[attempt]? = some configuration) :
    (requests ++ more)[attempt]? = some configuration := by
  rw [List.getElem?_append_left (List.getElem?_eq_some_iff.1 found).1, found]

theorem length_requests (cache : Cache) (call : Call) :
    (call.requests cache).length = (call.asksFactory cache).toNat := by
  unfold Call.requests
  cases call.asksFactory cache <;> rfl

theorem Recorded.perform {requests : List Configuration}
    (recorded : Recorded factory requests cache) (call : Call) :
    Recorded factory (requests ++ call.requests cache) (call.perform factory cache).2 := by
  refine ⟨recorded.coherent.perform call, ?_, ?_⟩
  · rw [(counts_perform factory cache call).1, List.length_append, recorded.length,
      length_requests]
    rfl
  · intro built member
    rcases perform_cases factory cache call with
      ⟨_, _, _, outcome⟩ | ⟨_, _, outcome⟩ | ⟨rfl, absent, _, _, outcome⟩ |
        ⟨rfl, absent, _, _, outcome⟩
    · rw [outcome] at member
      exact getElem?_append_of_eq_some (recorded.request built member)
    · rw [outcome] at member
      contradiction
    · rw [outcome] at member
      change built ∈ cache.engine at member
      rw [absent] at member
      contradiction
    · rw [outcome] at member
      cases member
      have asks : Call.acquire.asksFactory cache = true := by
        rw [Call.asksFactory, isBuilt, absent]
        rfl
      rw [Call.requests, if_pos asks, ← recorded.length, List.getElem?_append_right (Nat.le_refl _),
        Nat.sub_self]
      rfl

theorem eq_acquire_of_reply {call : Call} {outcome : Except EngineError BuiltEngine}
    (reply : (call.perform factory cache).1 = .engine outcome) : call = .acquire := by
  cases call with
  | acquire => rfl
  | configure next => contradiction
  | invalidate => contradiction
  | readConfiguration => contradiction
  | readBuilt => contradiction

/-- An engine that was handed out came of the request for the configuration it is paired with. -/
theorem Recorded.event {requests : List Configuration} (recorded : Recorded factory requests cache)
    {calls : List Call} {built : BuiltEngine} {event : Event}
    (member : event ∈ events factory cache calls) (handed : event.reply = .engine (.ok built)) :
    (requests ++ requested factory cache calls)[built.attempt]? = some built.configuration ∧
      (factory.create built.attempt built.configuration).value = .ok built.engine := by
  induction calls generalizing requests cache with
  | nil => contradiction
  | cons call rest inductionHypothesis =>
      have next := recorded.perform call
      rw [requested, ← List.append_assoc]
      rcases List.mem_cons.1 member with rfl | later
      · have acquired : call.perform factory cache =
          (.engine (.ok built), (call.perform factory cache).2) := Prod.ext handed rfl
        obtain rfl := eq_acquire_of_reply handed
        have present := (recorded.coherent.acquire acquired).1
        exact ⟨getElem?_append_of_eq_some (next.request built present),
          next.coherent.made built present⟩
      · exact inductionHypothesis next later

/-- Calls for the engine that come one after the other are those of several callers. -/
theorem acquireAll_eq_after (factory : Factory) (callers : Nat) (cache : Cache) :
    (acquireAll factory callers cache).value.2 =
        after factory cache (List.replicate callers .acquire) ∧
      (acquireAll factory callers cache).value.1.map Reply.engine =
        (events factory cache (List.replicate callers .acquire)).map Event.reply := by
  induction callers generalizing cache with
  | zero => exact ⟨rfl, rfl⟩
  | succ callers inductionHypothesis =>
      obtain ⟨last, replies⟩ := inductionHypothesis (cache.acquire factory).value.2
      exact ⟨last, congrArg (Reply.engine (cache.acquire factory).value.1 :: ·) replies⟩

/-- All callers are handed the engine that is there. -/
theorem reply_of_present {built : BuiltEngine} (present : cache.engine = some built)
    (current : built.configuration = cache.configuration) {callers : Nat} {event : Event}
    (member : event ∈ events factory cache (List.replicate callers .acquire)) :
    event.reply = .engine (.ok built) := by
  induction callers with
  | zero => contradiction
  | succ callers inductionHypothesis =>
      have found : (cache.acquire factory).value = _ := acquire_of_present present
      rw [List.replicate_succ, events, Call.perform, found] at member
      rcases List.mem_cons.1 member with rfl | later
      · change Reply.engine (cache.acquire factory).value.1 = _
        rw [found, ← current]
      · exact inductionHypothesis later

/-- If the first caller gets an engine, all of them get the same, and no other is made. -/
theorem acquire_repeatedly_of_ok (absent : cache.engine = none) {engine : Engine}
    (created : (factory.create cache.attempts cache.configuration).value = .ok engine)
    (more : Nat) :
    let last := after factory cache (List.replicate (more + 1) .acquire)
    last.attempts = cache.attempts + 1 ∧ last.builds = cache.builds + 1 ∧
      ∀ event ∈ events factory cache (List.replicate (more + 1) .acquire),
        event.reply = .engine (.ok ⟨cache.attempts, cache.configuration, engine⟩) := by
  intro last
  have first := acquire_of_ok absent created
  have kept : someDrops cache.configuration (List.replicate more .acquire) = false := by
    induction more with
    | zero => rfl
    | succ more inductionHypothesis => exact inductionHypothesis
  have unchanged : last = (cache.acquire factory).value.2 := by
    change after factory (cache.acquire factory).value.2 (List.replicate more .acquire) = _
    rw [first]
    exact after_eq_self rfl kept
  rw [unchanged, first]
  refine ⟨rfl, rfl, ?_⟩
  intro event member
  rw [List.replicate_succ, events, Call.perform, first] at member
  rcases List.mem_cons.1 member with rfl | later
  · change Reply.engine (cache.acquire factory).value.1 = _
    rw [first]
  · exact reply_of_present rfl rfl later

/-- If all attempts fail, every caller makes its own. -/
theorem acquire_repeatedly_of_error (absent : cache.engine = none)
    (failing : ∀ attempt, ∃ error,
      (factory.create attempt cache.configuration).value = .error error) (callers : Nat) :
    let last := after factory cache (List.replicate callers .acquire)
    last.attempts = cache.attempts + callers ∧ last.builds = cache.builds ∧
      requested factory cache (List.replicate callers .acquire) =
        List.replicate callers cache.configuration ∧
      ∀ (position : Nat) (event : Event),
        (events factory cache (List.replicate callers .acquire))[position]? = some event →
        ∃ error, (factory.create (cache.attempts + position) cache.configuration).value =
          .error error ∧ event.reply = .engine (.error error) := by
  induction callers generalizing cache with
  | zero => exact ⟨rfl, rfl, rfl, fun _ _ found => nomatch found⟩
  | succ callers inductionHypothesis =>
      intro last
      obtain ⟨error, failed⟩ := failing cache.attempts
      have first := acquire_of_error absent failed
      have asks : Call.acquire.requests cache = [cache.configuration] := by
        simp [Call.requests, Call.asksFactory, isBuilt, absent]
      let attempted := { cache with attempts := cache.attempts + 1 }
      have stillAbsent : attempted.engine = none := absent
      obtain ⟨attempts, builds, requests, replies⟩ := inductionHypothesis stillAbsent failing
      have lastEq : last = after factory attempted (List.replicate callers .acquire) := by
        change after factory (cache.acquire factory).value.2 _ = _
        rw [first]
      rw [lastEq, List.replicate_succ, events, requested, Call.perform, first, asks]
      refine ⟨?_, builds, congrArg (cache.configuration :: ·) requests, ?_⟩
      · rw [attempts, Nat.add_assoc, Nat.add_comm 1]
      · intro position event found
        cases position with
        | zero =>
            obtain rfl := Option.some.inj found
            refine ⟨error, failed, ?_⟩
            change Reply.engine (cache.acquire factory).value.1 = _
            rw [first]
        | succ position =>
            obtain ⟨error, failed, reply⟩ := replies position event found
            refine ⟨error, ?_, reply⟩
            rwa [Nat.add_assoc, Nat.add_comm 1] at failed

end Listings.Cache

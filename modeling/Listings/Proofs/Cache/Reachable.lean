/-
This file says which caches can arise and what holds of every engine in them.
-/

import Listings.Cache

namespace Listings

/-- A new cache that was configured, emptied and asked for its engine any number of times. -/
inductive Cache.Reachable (factory : Factory) : Cache → Prop where
  | start (configuration : Configuration) : Reachable factory { configuration := configuration }
  | configure {cache : Cache} (configuration : Configuration) :
      Reachable factory cache → Reachable factory (cache.setConfiguration configuration).value
  | invalidate {cache : Cache} : Reachable factory cache → Reachable factory cache.invalidate
  | acquire {cache : Cache} :
      Reachable factory cache → Reachable factory (cache.acquire factory).value.2

/-- Every engine that the factory makes has the property. -/
def Factory.Makes (holds : Engine → Prop) (factory : Factory) : Prop :=
  ∀ (attempt : Nat) (configuration : Configuration) (engine : Engine),
    (factory.create attempt configuration).value = .ok engine → holds engine

namespace Cache

variable {factory : Factory} {holds : Engine → Prop}

/-- An engine comes from the factory or was there before. -/
theorem acquire_keeps (makes : factory.Makes holds) {cache : Cache}
    (kept : ∀ built ∈ cache.engine, holds built.engine) :
    (∀ built, (cache.acquire factory).value.1 = .ok built → holds built.engine) ∧
      ∀ built ∈ (cache.acquire factory).value.2.engine, holds built.engine := by
  unfold acquire
  split
  · rename_i present isPresent
    refine ⟨?_, kept⟩
    intro built same
    cases same
    exact kept present isPresent
  · rename_i isAbsent
    unfold build
    dsimp only
    split
    · rename_i error failed
      refine ⟨?_, kept⟩
      intro built same
      contradiction
    · rename_i engine created
      have made := makes cache.attempts cache.configuration engine created
      constructor
      · intro built same
        cases same
        exact made
      · intro built member
        cases member
        exact made

theorem Reachable.keeps (makes : factory.Makes holds) {cache : Cache}
    (reachable : Reachable factory cache) : ∀ built ∈ cache.engine, holds built.engine := by
  induction reachable with
  | start configuration =>
      intro built member
      contradiction
  | configure configuration _ inductionHypothesis =>
      unfold setConfiguration
      split
      · exact inductionHypothesis
      · intro built member
        contradiction
  | invalidate _ inductionHypothesis =>
      intro built member
      contradiction
  | acquire _ inductionHypothesis => exact (acquire_keeps makes inductionHypothesis).2

/-- Whatever engine a reachable cache hands out was made by the factory. -/
theorem Reachable.acquired (makes : factory.Makes holds) {cache : Cache}
    (reachable : Reachable factory cache) {built : BuiltEngine}
    (acquired : (cache.acquire factory).value.1 = .ok built) : holds built.engine :=
  (acquire_keeps makes (reachable.keeps makes)).1 built acquired

end Cache

end Listings

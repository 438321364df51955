/-
This file keeps one engine for as long as the configuration stays the same.
-/

import Listings.Engine.Basic

namespace Listings

/-- An engine together with the configuration that it was made for. -/
structure BuiltEngine where
  /-- No two engines of one cache come from the same attempt. -/
  attempt : Nat
  configuration : Configuration
  engine : Engine

/-- The palettes of all configured themes. -/
def BuiltEngine.palettes (built : BuiltEngine) : Except HighlightError (List Palette) :=
  built.engine.palettes built.configuration.themes

structure Cache where
  configuration : Configuration
  engine : Option BuiltEngine := none
  /-- How often an engine was asked of the factory. -/
  attempts : Nat := 0
  /-- How often the factory gave one. -/
  builds : Nat := 0

namespace Cache

def isBuilt (cache : Cache) : Bool := cache.engine.isSome

/-- Only a different configuration costs the engine. -/
def setConfiguration (configuration : Configuration) (cache : Cache) : Reported Cache :=
  if cache.configuration = configuration then pure cache
  else ⟨{ cache with configuration := configuration, engine := none }, [.configurationChanged]⟩

def invalidate (cache : Cache) : Cache := { cache with engine := none }

/-- Asks the factory for an engine; a failure leaves the cache empty. -/
def build (factory : Factory) (cache : Cache) : Reported (Except EngineError BuiltEngine × Cache) :=
  let attempted := { cache with attempts := cache.attempts + 1 }
  let created := factory.create cache.attempts cache.configuration
  let outcome : Except EngineError BuiltEngine × Cache := match created.value with
    | .error error => (.error error, attempted)
    | .ok engine =>
        let built : BuiltEngine := ⟨cache.attempts, cache.configuration, engine⟩
        (.ok built, { attempted with engine := some built, builds := cache.builds + 1 })
  ⟨outcome, .buildingEngine :: created.notices⟩

/-- The engine, made on first use and handed out with the current configuration. -/
def acquire (factory : Factory) (cache : Cache) :
    Reported (Except EngineError BuiltEngine × Cache) :=
  match cache.engine with
  | some built => pure (.ok { built with configuration := cache.configuration }, cache)
  | none => cache.build factory

/-- Several callers ask for the engine, one after the other. -/
def acquireAll (factory : Factory) :
    Nat → Cache → Reported (List (Except EngineError BuiltEngine) × Cache)
  | 0, cache => pure ([], cache)
  | callers + 1, cache => do
      let first ← cache.acquire factory
      let rest ← acquireAll factory callers first.2
      pure (first.1 :: rest.1, rest.2)

end Cache

end Listings

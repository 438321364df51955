/-
This file runs command lines and says how they end.
-/

import Listings.Command.Session

namespace Listings

inductive Ending where
  | success
  | failure
  /-- The command line makes no sense. -/
  | misuse
deriving DecidableEq, Repr

def Ending.code : Ending → UInt32
  | success => 0
  | failure => 1
  | misuse => 2

/-- All that a run of the program leaves besides files. -/
structure Outcome where
  ending : Ending
  output : String := ""
  messages : List String := []
  notices : List Notice := []

namespace Outcome

def usage : String :=
  "Usage: rwhl [-v | --verbose] [-V | --version] (render | code | themes | languages) [OPTIONS]"

def version : String := "rwhl 0.1.0"

variable {m : Type → Type} [Monad m]

def ofTask (world : Surroundings m) (source : SettingsSource) (task : Task) : m Outcome := do
  let (result, shown) ← ((Session.perform world source task).run).run {}
  match result with
  | .ok () => pure ⟨.success, shown.output, shown.messages, shown.notices⟩
  | .error error =>
      pure ⟨.failure, shown.output, shown.messages ++ ["Error: " ++ error.message], shown.notices⟩

/-- Notices that are worth showing to whoever asks for more. -/
def isTelling (notice : Notice) : Bool := notice.level ≠ .debug

/-- Runs the program; only a verbose run shows its notices. -/
def ofArguments (world : Surroundings m) (texts : List String) : m Outcome := do
  match Command.read? texts with
  | none => pure { ending := .misuse, messages := [usage] }
  | some .version => pure { ending := .success, output := version ++ "\n" }
  | some (.perform verbose source task) => do
      let outcome ← ofTask world source task
      pure { outcome with
        notices := if verbose then outcome.notices.filter isTelling else [] }

end Outcome

end Listings

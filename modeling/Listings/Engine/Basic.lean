/-
This file defines engines, which cut texts into styled fragments, and how they are made.
-/

import Listings.Error
import Listings.Fragment
import Listings.Notice

namespace Listings

/-- The themes to render, in order. -/
structure Configuration where
  themes : List String
deriving DecidableEq, Repr

namespace Configuration

def defaultThemes : List String := ["InspiredGitHub", "base16-ocean.dark"]

instance : Inhabited Configuration := ⟨⟨defaultThemes⟩⟩

/-- Equal exactly for equal configurations. -/
def fingerprint (configuration : Configuration) : List String := configuration.themes

end Configuration

/-- What turns source text into lines of fragments. -/
structure Engine where
  languages : List String
  hasLanguage : String → Bool := fun language => languages.contains language
  palette : String → Except HighlightError Palette
  tokenize : (text language theme : String) → Except HighlightError (List Line)

/-- The palettes of all themes, or the error of the first theme without one. -/
def Engine.palettes (engine : Engine) (themes : List String) :
    Except HighlightError (List Palette) :=
  themes.mapM engine.palette

/-- Makes engines; what an attempt gives may depend on how many came before it. -/
structure Factory where
  create : (attempt : Nat) → Configuration → Reported (Except EngineError Engine)

/-- A factory that answers every attempt alike. -/
def Factory.steady (create : Configuration → Reported (Except EngineError Engine)) : Factory :=
  ⟨fun _ => create⟩

end Listings

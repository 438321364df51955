/-
This file defines themes and the style that they give to a stack of scopes.
-/

import Listings.Color
import Listings.Fragment
import Listings.Theme.Selector

namespace Listings

/-- What a rule does not name stays as it is. -/
structure ThemeRule where
  selectors : List Selector
  foreground : Option Color := none
  style : Option FontStyle := none
deriving DecidableEq, Repr

structure Theme where
  foreground : Option Color := none
  background : Option Color := none
  rules : List ThemeRule := []
deriving DecidableEq, Repr

/-- How a piece of text looks. -/
structure Look where
  color : Color
  style : FontStyle
deriving DecidableEq, Repr

/-- A value with the score that it was found with. -/
abbrev Scored (α : Type) := Option (Nat × α)

/-- Only a higher score replaces a value. -/
def Scored.improve {α : Type} (best : Scored α) (score : Nat) : Option α → Scored α
  | none => best
  | some value =>
      match best with
      | none => some (score, value)
      | some (known, _) => if known < score then some (score, value) else best

/-- The best values so far. -/
structure ScoredLook where
  color : Scored Color := none
  style : Scored FontStyle := none

def ScoredLook.improve (best : ScoredLook) (score : Nat) (rule : ThemeRule) : ScoredLook :=
  ⟨best.color.improve score rule.foreground, best.style.improve score rule.style⟩

namespace Theme

def palette (theme : Theme) (name : String) : Palette where
  name := name
  foreground := (theme.foreground.getD .black).text
  background := (theme.background.getD .white).text

/-- The rules with each of their selectors. -/
def selectors (theme : Theme) : List (Selector × ThemeRule) :=
  theme.rules.flatMap fun rule => rule.selectors.map fun selector => (selector, rule)

/-- Rules that ask for one scope, at the scope that stands at a position. -/
def improveAt (theme : Theme) (best : ScoredLook) (place : Scope × Nat) : ScoredLook :=
  theme.selectors.foldl (fun best entry =>
    match entry.1.single? with
    | some wanted =>
        if place.1.refines wanted then best.improve (Selector.weight wanted place.2) entry.2
        else best
    | none => best) best

/-- Rules that ask for more than one scope come last. -/
def improveByPaths (theme : Theme) (stack : ScopeStack) (best : ScoredLook) : ScoredLook :=
  theme.selectors.foldl (fun best entry =>
    match entry.1.single?, entry.1.score? stack with
    | none, some score => best.improve score entry.2
    | _, _ => best) best

def look (theme : Theme) (stack : ScopeStack) : Look :=
  let found := theme.improveByPaths stack (stack.zipIdx.foldl theme.improveAt {})
  { color := (found.color.map Prod.snd).getD (theme.foreground.getD .black)
    style := (found.style.map Prod.snd).getD {} }

end Theme

end Listings

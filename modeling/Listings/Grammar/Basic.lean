/-
This file defines grammars: nested contexts whose rules give scopes to text.
-/

import Listings.Grammar.Pattern
import Listings.Scope

namespace Listings

/-- What a match does to the contexts. -/
inductive Move where
  | stay
  | push (context : String)
  | pop
deriving DecidableEq

structure GrammarRule where
  pattern : Pattern
  scopes : List Scope := []
  move : Move := .stay

structure Context where
  /-- The scopes of all text from the match that opens it to the one that closes it. -/
  outerScopes : List Scope := []
  /-- The scopes of the text between those two matches. -/
  innerScopes : List Scope := []
  rules : List GrammarRule := []

structure Grammar where
  name : String
  extensions : List String
  scope : Scope
  contexts : List (String × Context)

namespace Grammar

def mainName : String := "main"

/-- The name of the context that the outermost one opens. -/
def openingName : String := "__main"

def main (grammar : Grammar) : Context := (grammar.contexts.lookup mainName).getD {}

/-- The context around all others opens the main one wherever it is closed. -/
def outermost (grammar : Grammar) : Context where
  innerScopes := [grammar.scope]
  rules := [{ pattern := .nothing, move := .push openingName }]

/-- A main context that a rule opens brings the scope of the grammar once more. -/
def context? (grammar : Grammar) (name : String) : Option Context :=
  if name == openingName then some grammar.main
  else if name == mainName then
    some { grammar.main with innerScopes := grammar.scope :: grammar.main.innerScopes }
  else grammar.contexts.lookup name

end Grammar

end Listings

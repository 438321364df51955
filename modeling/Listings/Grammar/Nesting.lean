/-
This file follows the contexts of a grammar along a line.
-/

import Listings.Error
import Listings.Grammar.Basic
import Listings.Text.Escaped

namespace Listings

/-- The open contexts, innermost first. -/
structure Nesting where
  contexts : List Context
  /-- Whether a line was read before. -/
  isOpened : Bool := false

/-- A change of the stack of scopes where it happens in a line. -/
structure PlacedChange where
  position : Nat
  change : ScopeChange
deriving DecidableEq, Repr

/-- The match that was chosen at a place. -/
structure Candidate where
  rule : GrammarRule
  start : Nat
  finish : Cursor
  /-- It would close what was opened right here without any text between. -/
  goesInCircles : Bool

namespace Nesting

/-- With so many open contexts a rule that opens one more ends the line. -/
def depthLimit : Nat := 100

def start (grammar : Grammar) : Nesting := ⟨[grammar.outermost], false⟩

def innermost (contexts : List Context) : Context := contexts.headD {}

def opens : Move → Bool
  | .push _ => true
  | _ => false

/-- A match that neither has text nor changes the contexts is none. -/
def doesNothing (rule : GrammarRule) (found : Match) : Bool :=
  rule.move == .stay && found.finish.position == found.start

/-- A match that starts earlier is better, and so is one in place of a circle. -/
def isBetter (found : Match) : Option Candidate → Bool
  | none => true
  | some best => found.start < best.start || (found.start == best.start && best.goesInCircles)

/-- The earliest match of the rules, the first of them where several start together. -/
def choose (depth : Nat) (closesCircle : Bool) (cursor : Cursor) :
    Option Candidate → List GrammarRule → Option Candidate
  | best, [] => best
  | best, rule :: rules =>
      match rule.pattern.search cursor with
      | none => choose depth closesCircle cursor best rules
      | some found =>
          if doesNothing rule found || !isBetter found best then
            choose depth closesCircle cursor best rules
          else if opens rule.move && depthLimit ≤ depth then none
          else
            let circles := closesCircle && rule.move == .pop &&
              found.finish.position == cursor.position
            let candidate := ⟨rule, found.start, found.finish, circles⟩
            if found.start == cursor.position && !circles then some candidate
            else choose depth closesCircle cursor (some candidate) rules

def pushAll (position : Nat) (scopes : List Scope) : List PlacedChange :=
  scopes.map fun scope => ⟨position, .push scope⟩

def popAll (position : Nat) (scopes : List Scope) : List PlacedChange :=
  if scopes.isEmpty then [] else [⟨position, .pop scopes.length⟩]

/-- The scopes of a match stand between those that the contexts bring before and after it. -/
def around (start finish : Nat) (scopes : List Scope) (before after : List PlacedChange) :
    List PlacedChange :=
  before ++ pushAll start scopes ++ popAll finish scopes ++ after

/-- The context that opens brings its outer scopes at the match and its inner ones after it. -/
def openingChanges (start finish : Nat) (scopes : List Scope) (opened : Context) :
    List PlacedChange :=
  let after := if opened.innerScopes.isEmpty then [] else
    popAll finish opened.outerScopes ++ pushAll finish (opened.outerScopes ++ opened.innerScopes)
  around start finish scopes (pushAll start opened.outerScopes) after

/-- The context that closes takes its inner scopes before the match and its outer ones after. -/
def closingChanges (start finish : Nat) (scopes : List Scope) (closed : Context) :
    List PlacedChange :=
  around start finish scopes (popAll start closed.innerScopes) (popAll finish closed.outerScopes)

/-- The changes of a match and the contexts after it. -/
def perform (grammar : Grammar) (contexts : List Context) (candidate : Candidate) :
    Except TokenizeError (List PlacedChange × List Context) :=
  let start := candidate.start
  let finish := candidate.finish.position
  let scopes := candidate.rule.scopes
  match candidate.rule.move with
  | .stay => .ok (around start finish scopes [] [], contexts)
  | .pop => .ok (closingChanges start finish scopes (innermost contexts), contexts.tail)
  | .push name =>
      match grammar.context? name with
      | some opened => .ok (openingChanges start finish scopes opened, opened :: contexts)
      | none => .error (.unresolvedContext (Text.quoted name))

/-- Where a context was last opened without any text, and how many were open then. -/
abbrev Opening := Option (Nat × Nat)

def openingAfter (cursor : Cursor) (depth : Nat) (candidate : Candidate) (last : Opening) :
    Opening :=
  if candidate.finish.position == cursor.position && opens candidate.rule.move then
    some (cursor.position, depth + 1)
  else last

/-- Matches from a place to the end of the line, at most `fuel` of them. -/
def follow (grammar : Grammar) :
    Nat → Cursor → List Context → Opening →
      Except TokenizeError (List PlacedChange × List Context)
  | 0, _, contexts, _ => .ok ([], contexts)
  | fuel + 1, cursor, contexts, last =>
      let depth := contexts.length
      let closesCircle := last == some (cursor.position, depth)
      match choose depth closesCircle cursor none (innermost contexts).rules with
      | none => .ok ([], contexts)
      | some candidate =>
          if candidate.goesInCircles then
            match cursor.next? with
            | some ⟨position, before, c :: rest⟩ =>
                follow grammar fuel ⟨position, before, c :: rest⟩ contexts last
            | _ => .ok ([], contexts)
          else do
            let (changes, contexts) ← perform grammar contexts candidate
            let (others, contexts) ← follow grammar fuel candidate.finish contexts
              (openingAfter cursor depth candidate last)
            pure (changes ++ others, contexts)

/-- Contexts close at one place at most as often as they were opened, and open up to the limit. -/
def matchLimit (contexts : List Context) (line : List Char) : Nat :=
  (line.length + 1) * (2 * depthLimit + 2) + contexts.length

/-- The changes in a line, which ends with `\n`, and the contexts after it. -/
def parseLine (grammar : Grammar) (nesting : Nesting) (line : List Char) :
    Except TokenizeError (List PlacedChange × Nesting) := do
  let opening := if nesting.isOpened then []
    else pushAll 0 (innermost nesting.contexts).innerScopes
  let (changes, contexts) ←
    follow grammar (matchLimit nesting.contexts line) (.start line) nesting.contexts none
  pure (opening ++ changes, ⟨contexts, true⟩)

end Nesting

end Listings

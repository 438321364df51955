/-
This file reads the written form of patterns.
-/

import Listings.Grammar.Pattern
import Listings.Text.Number
import Listings.Text.Reading

namespace Listings.Pattern

open Text Reading

/-- A dot stands for any character but the end of the line. -/
def isWithinLine (c : Char) : Bool := c != '\n'

/-- The characters that an escape stands for. -/
def escapedSet (c : Char) : Char → Bool :=
  match c with
  | 'd' => isDigit
  | 'w' => isWordChar
  | 's' => isBlank
  | 'D' => fun d => !isDigit d
  | 'W' => fun d => !isWordChar d
  | 'S' => fun d => !isBlank d
  | _ => (· == escapedChar c)
where
  escapedChar : Char → Char
    | 'n' => '\n'
    | 't' => '\t'
    | 'r' => '\r'
    | c => c

/-- The items of a class up to its end; a hyphen between two characters makes a range. -/
def classItems : Nat → Reading (Char → Bool)
  | 0 => fail
  | fuel + 1 => do
      match ← next with
      | ']' => pure fun _ => false
      | '\\' => do
          let accepts := escapedSet (← next)
          let others ← classItems fuel
          pure fun c => accepts c || others c
      | low => do
          match ← rest with
          | '-' :: high :: after =>
              if high == ']' then single fuel low
              else do
                set after
                let others ← classItems fuel
                pure fun c => (low ≤ c && c ≤ high) || others c
          | _ => single fuel low
where
  single (fuel : Nat) (wanted : Char) : Reading (Char → Bool) := do
    let others ← classItems fuel
    pure fun c => c == wanted || others c

def characterClass (fuel : Nat) : Reading Pattern := do
  if ← accept ['^'] then
    let accepts ← classItems fuel
    pure (.one fun c => !accepts c)
  else
    pure (.one (← classItems fuel))

/-- A sign after an item says how often it stands. -/
def quantified (item : Pattern) : Reading Pattern := do
  if ← accept ['+'] then pure (.both item (.many item))
  else if ← accept ['*'] then pure (.many item)
  else if ← accept ['?'] then pure (.either item .nothing)
  else pure item

mutual

/-- Sequences with bars between them. -/
def alternatives : Nat → Reading Pattern
  | 0 => fail
  | fuel + 1 => do
      let first ← itemSequence fuel
      if ← accept ['|'] then pure (.either first (← alternatives fuel))
      else pure first

def itemSequence : Nat → Reading Pattern
  | 0 => fail
  | fuel + 1 => do
      match ← peek with
      | none | some '|' | some ')' => pure .nothing
      | some _ => do
          let first ← quantified (← item fuel)
          pure (.both first (← itemSequence fuel))

def item : Nat → Reading Pattern
  | 0 => fail
  | fuel + 1 => do
      match ← next with
      | '.' => pure (.one isWithinLine)
      | '[' => characterClass fuel
      | '(' => do
          let _ ← accept ['?', ':']
          let inner ← alternatives fuel
          expect [')']
          pure inner
      | '\\' => do
          match ← next with
          | 'b' => pure .boundary
          | c => pure (.one (escapedSet c))
      | c => pure (.one (· == c))

end

def read? (written : String) : Option Pattern := do
  let text := written.toList
  let (pattern, rest) ← (alternatives (3 * text.length + 3)).run text
  if rest.isEmpty then some pattern else none

end Listings.Pattern

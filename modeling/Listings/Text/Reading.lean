/-
This file reads from the front of a text.
-/

import Listings.Text.Pieces

namespace Listings.Text

/-- Takes from the front of a text and leaves the rest, or fails. -/
abbrev Reading (α : Type) := StateT (List Char) Option α

namespace Reading

def fail {α : Type} : Reading α := fun _ => none

def rest : Reading (List Char) := get

def peek : Reading (Option Char) := do
  let text ← rest
  pure text.head?

def takeWhile (accepts : Char → Bool) : Reading (List Char) := do
  let text ← rest
  set (text.dropWhile accepts)
  pure (text.takeWhile accepts)

/-- Goes past a text that must stand here. -/
def expect (wanted : List Char) : Reading Unit := do
  let text ← rest
  match dropStart? wanted text with
  | some after => set after
  | none => fail

/-- Goes past a text if it stands here. -/
def accept (wanted : List Char) : Reading Bool := do
  let text ← rest
  match dropStart? wanted text with
  | some after => do set after; pure true
  | none => pure false

def next : Reading Char := do
  let text ← rest
  match text with
  | c :: after => do set after; pure c
  | [] => fail

end Reading

end Listings.Text

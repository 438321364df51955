/-
This file defines patterns and finds where they match.
-/

import Listings.Text.Property.Word

namespace Listings

/-- A place in a line. -/
structure Cursor where
  position : Nat
  before : Option Char
  rest : List Char

namespace Cursor

def start (line : List Char) : Cursor := ⟨0, none, line⟩

/-- The place one character further on. -/
def next? (cursor : Cursor) : Option Cursor :=
  match cursor.rest with
  | c :: rest => some ⟨cursor.position + 1, some c, rest⟩
  | [] => none

/-- Only one of the characters on both sides belongs to a word. -/
def isBoundary (cursor : Cursor) : Bool :=
  cursor.before.any Text.isWordChar != cursor.rest.head?.any Text.isWordChar

end Cursor

inductive Pattern where
  | nothing
  | one (accepts : Char → Bool)
  | boundary
  | both (first second : Pattern)
  | either (first second : Pattern)
  /-- As often as can be, or not at all. -/
  | many (inner : Pattern)
deriving Inhabited

/-- Where a pattern was found. -/
structure Match where
  start : Nat
  finish : Cursor

namespace Pattern

/-- Repeats a step as long as it moves on; more steps come before fewer. -/
def repeatEnds (step : Cursor → List Cursor) : Nat → Cursor → List Cursor
  | 0, cursor => [cursor]
  | fuel + 1, cursor =>
      let further := (step cursor).filter fun place => cursor.position < place.position
      further.flatMap (repeatEnds step fuel) ++ [cursor]

/-- Where matches from a place can end, the preferred one first. -/
def ends : Pattern → Cursor → List Cursor
  | nothing, cursor => [cursor]
  | one accepts, cursor =>
      match cursor.rest with
      | c :: _ => if accepts c then cursor.next?.toList else []
      | [] => []
  | boundary, cursor => if cursor.isBoundary then [cursor] else []
  | both first second, cursor => (ends first cursor).flatMap (ends second)
  | either first second, cursor => ends first cursor ++ ends second cursor
  | many inner, cursor => repeatEnds (ends inner) cursor.rest.length cursor

def matchAt? (pattern : Pattern) (cursor : Cursor) : Option Match :=
  (ends pattern cursor).head?.map fun finish => ⟨cursor.position, finish⟩

/-- The first match at a place or after it. -/
def searchFrom (pattern : Pattern) (position : Nat) (before : Option Char) :
    List Char → Option Match
  | [] => pattern.matchAt? ⟨position, before, []⟩
  | c :: rest =>
      match pattern.matchAt? ⟨position, before, c :: rest⟩ with
      | some found => some found
      | none => searchFrom pattern (position + 1) (some c) rest

def search (pattern : Pattern) (cursor : Cursor) : Option Match :=
  searchFrom pattern cursor.position cursor.before cursor.rest

end Pattern

end Listings

/-
This file defines the content of paragraphs and pairs the signs of emphasis in it.
-/

import Listings.Markdown.Reference
import Listings.Text.Property.Punctuation

namespace Listings.Markdown

inductive LinkKind where
  | plain
  | email
deriving DecidableEq

inductive Inline where
  | text (content : List Char)
  | code (content : List Char)
  | markup (content : List Char)
  | softBreak
  | hardBreak
  | emphasis (children : List Inline)
  | strong (children : List Inline)
  | deleted (children : List Inline)
  | link (kind : LinkKind) (target : Target) (children : List Inline)
  | image (target : Target) (children : List Inline)
deriving Inhabited

/-- Equal signs in a row that may open or close emphasis. -/
structure Run where
  mark : Char
  length : Nat
  opens : Bool
  closes : Bool

namespace Run

open Text

/-- Signs open what follows them; only some may do so within a word. -/
def canOpen (mark : Char) (length : Nat) (before after : Option Char) : Bool :=
  match after with
  | none => false
  | some next =>
      !isBlank next &&
        match before with
        | none => true
        | some last =>
            (mark == '*' && !isPunctuation next) || (mark == '~' && 1 < length) ||
              isBlank last || isPunctuation last

/-- Signs close what stands before them; only some may do so within a word. -/
def canClose (mark : Char) (length : Nat) (before after : Option Char) : Bool :=
  match before with
  | none => false
  | some last =>
      !isBlank last &&
        match after with
        | none => true
        | some next =>
            ((mark == '*' || (mark == '~' && 1 < length)) && !isPunctuation last) ||
              (mark == '~' && last == '~') || isBlank next || isPunctuation next

def between (mark : Char) (length : Nat) (before after : Option Char) : Run :=
  ⟨mark, length, canOpen mark length before after, canClose mark length before after⟩

def opensAndCloses (run : Run) : Bool := run.opens && run.closes

end Run

/-- A part of a paragraph before emphasis is paired. -/
inductive Piece where
  | inline (content : Inline)
  | run (run : Run)

/-- Signs that wait for others to close them, with the content after them, last part first. -/
structure Opener where
  run : Run
  /-- How many of the signs are left. -/
  left : Nat
  content : List Inline

namespace Opener

/-- Signs that pair with nothing stand for themselves. -/
def literal (opener : Opener) : List Inline :=
  opener.content ++ [.text (List.replicate opener.left opener.run.mark)]

def add (content : List Inline) (opener : Opener) : Opener :=
  { opener with content := content ++ opener.content }

end Opener

/-- What a paragraph is made of up to a place, last part first. -/
structure Pairing where
  openers : List Opener := []
  content : List Inline := []
  /-- So many of the outermost openers are not tried by tildes any more. -/
  tildeFloor : Nat := 0

namespace Pairing

def add (content : List Inline) (pairing : Pairing) : Pairing :=
  match pairing.openers with
  | [] => { pairing with content := content ++ pairing.content }
  | opener :: rest => { pairing with openers := opener.add content :: rest }

/-- Signs of an unequal kind do not pair where their lengths add up to a multiple of three. -/
def fits (closer : Run) (opener : Opener) : Bool :=
  let run := opener.run
  run.mark == closer.mark &&
    if closer.mark == '~' then run.length == closer.length
    else
      (!closer.opensAndCloses && !run.opensAndCloses) || (run.length + closer.length) % 3 != 0 ||
        closer.length % 3 == 0

/-- The openers further in than the first that fits, that one, and those around it. -/
def split? (closer : Run) : List Opener → Option (List Opener × Opener × List Opener)
  | [] => none
  | opener :: rest =>
      if fits closer opener then some ([], opener, rest)
      else (split? closer rest).map fun found => (opener :: found.1, found.2.1, found.2.2)

/-- The openers that a run may be paired with. -/
def candidates (closer : Run) (pairing : Pairing) : List Opener :=
  if closer.mark == '~' then
    pairing.openers.take (pairing.openers.length - pairing.tildeFloor)
  else pairing.openers

/-- Two signs make strong emphasis, and one that is left over plain emphasis around it. -/
def wrap (mark : Char) : Nat → List Inline → List Inline
  | 0, content => content
  | 1, content => [if mark == '~' then .deleted content else .emphasis content]
  | count + 2, content =>
      wrap mark count [if mark == '~' then .deleted content else .strong content]

/-- Pairs so many signs of a run, which has at most `left` of them, as it can. -/
def close (closer : Run) : Nat → Pairing → Nat × Pairing
  | 0, pairing => (0, pairing)
  | left + 1, pairing =>
      match split? closer (candidates closer pairing) with
      | none =>
          let floor :=
            if closer.mark == '~' then pairing.openers.length else pairing.tildeFloor
          (left + 1, { pairing with tildeFloor := floor })
      | some (inner, opener, _) =>
          let outer := pairing.openers.drop (inner.length + 1)
          let content := inner.flatMap Opener.literal ++ opener.content
          let count := min (left + 1) opener.left
          let paired := wrap closer.mark count content.reverse
          let below : Pairing :=
            ⟨outer, pairing.content, min pairing.tildeFloor outer.length⟩
          let rest := if count < opener.left then
            { below with openers := ⟨opener.run, opener.left - count, paired⟩ :: outer }
            else below.add paired
          if count == 0 then (left + 1, pairing) else close closer (left + 1 - count) rest
termination_by left => left
decreasing_by
  rename_i positive
  have : count ≠ 0 := by simpa using positive
  omega

def push (pairing : Pairing) : Piece → Pairing
  | .inline content => pairing.add [content]
  | .run run =>
      let (left, pairing) := if run.closes then close run run.length pairing
        else (run.length, pairing)
      if left == 0 then pairing
      else if run.opens then { pairing with openers := ⟨run, left, []⟩ :: pairing.openers }
      else pairing.add [.text (List.replicate left run.mark)]

def finish (pairing : Pairing) : List Inline :=
  (pairing.openers.flatMap Opener.literal ++ pairing.content).reverse

end Pairing

/-- Pairs the signs of emphasis among pieces. -/
def Inline.ofPieces (pieces : List Piece) : List Inline :=
  (pieces.foldl Pairing.push {}).finish

end Listings.Markdown

/-
This file sorts arguments into options with their values and operands.
-/

import Listings.Text.Number
import Listings.Text.Pieces

namespace Listings

/-- What follows an option. -/
inductive OptionValue where
  | absent
  | text
  /-- A text that is not empty. -/
  | path
  | index
deriving DecidableEq, Repr

/-- How an option is written. -/
structure OptionForm where
  name : String
  letter : Option Char := none
  value : OptionValue
  repeatable : Bool := false
deriving DecidableEq, Repr

/-- The arguments of one task. -/
structure Arguments where
  /-- The names of the options with their values, in order. -/
  options : List (String × String) := []
  operands : List String := []
deriving DecidableEq, Repr

/-- What an argument looks like before it is known what it means. -/
inductive Argument where
  /-- All arguments after this one are operands. -/
  | ending
  | long (name : List Char) (value : Option (List Char))
  | letters (letters : List Char)
  | plain (text : List Char)

/-- A lone dash is as plain as any other text. -/
def Argument.ofText : List Char → Argument
  | ['-', '-'] => .ending
  | '-' :: '-' :: body =>
      match Text.cutAt? (· == '=') body with
      | some (name, value) => .long name (some value)
      | none => .long body none
  | '-' :: letter :: rest => .letters (letter :: rest)
  | text => .plain text

namespace OptionValue

def accepts : OptionValue → List Char → Bool
  | absent, value => value.isEmpty
  | text, _ => true
  | path, value => !value.isEmpty
  | index, value => (Text.readIndex? value).isSome

end OptionValue

namespace Arguments

/-- An option of the given form, unless its value makes no sense. -/
def option? (form : OptionForm) (value : List Char) : Option Arguments :=
  if form.value.accepts value then some { options := [(form.name, String.ofList value)] } else none

def operand (text : List Char) : Arguments := { operands := [String.ofList text] }

def append (first second : Arguments) : Arguments :=
  ⟨first.options ++ second.options, first.operands ++ second.operands⟩

/-- Arguments so far, perhaps with an option that still lacks its value. -/
structure Progress where
  found : Arguments := {}
  waiting : Option OptionForm := none

/-- Letters without values may stand together; one with a value is the last of them. -/
def readLetters (forms : List OptionForm) : List Char → Option Progress
  | [] => some {}
  | letter :: rest => do
      let form ← forms.find? fun form => form.letter == some letter
      if form.value = .absent then
        let first ← option? form []
        let more ← readLetters forms rest
        pure { more with found := first.append more.found }
      else
        match rest with
        | [] => pure { waiting := some form }
        | '=' :: value | value => do
            let found ← option? form value
            pure { found := found }

def readLong (forms : List OptionForm) (name : List Char) (value : Option (List Char)) :
    Option Progress := do
  let form ← forms.find? fun form => form.name.toList == name
  match value with
  | some value =>
      if form.value = .absent then none
      else do
        let found ← option? form value
        pure { found := found }
  | none =>
      if form.value = .absent then do
        let found ← option? form []
        pure { found := found }
      else pure { waiting := some form }

/-- Reads one argument that no option waits for. -/
def readArgument (forms : List OptionForm) (text : List Char) : Option Progress :=
  match Argument.ofText text with
  | .ending => some {}
  | .long name value => readLong forms name value
  | .letters letters => readLetters forms letters
  | .plain text => some { found := operand text }

/-- Reads all arguments; an option takes only what does not look like one. -/
def readAll (forms : List OptionForm) : Option OptionForm → List (List Char) → Option Arguments
  | none, [] => some {}
  | some _, [] => none
  | some form, text :: rest =>
      match Argument.ofText text with
      | .plain value => do
          let found ← option? form value
          let more ← readAll forms none rest
          pure (found.append more)
      | _ => none
  | none, text :: rest =>
      match Argument.ofText text with
      | .ending => some { operands := rest.map String.ofList }
      | _ => do
          let progress ← readArgument forms text
          let more ← readAll forms progress.waiting rest
          pure (progress.found.append more)

def values (name : String) (arguments : Arguments) : List String :=
  (arguments.options.filter fun option => option.1 == name).map Prod.snd

def value? (name : String) (arguments : Arguments) : Option String :=
  (arguments.values name).head?

def has (name : String) (arguments : Arguments) : Bool := !(arguments.values name).isEmpty

/-- Whether every option may be given as often as it is. -/
def respects (forms : List OptionForm) (arguments : Arguments) : Bool :=
  forms.all fun form => form.repeatable || (arguments.values form.name).length ≤ 1

/-- Reads the arguments of a task that takes at most so many operands. -/
def read? (forms : List OptionForm) (operandLimit : Nat) (texts : List String) :
    Option Arguments := do
  let arguments ← readAll forms none (texts.map String.toList)
  if arguments.respects forms && arguments.operands.length ≤ operandLimit &&
      arguments.operands.all fun operand => !operand.isEmpty then
    pure arguments
  else none

end Arguments

end Listings

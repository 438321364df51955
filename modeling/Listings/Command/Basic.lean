/-
This file says what a command line can ask for and reads it.
-/

import Listings.Command.Arguments

namespace Listings

/-- Where the settings of a task come from. -/
structure SettingsSource where
  path : Option String := none
  themes : List String := []
  themeFolder : Option String := none
deriving DecidableEq, Repr

/-- Results go to a file or, without one, to the terminal. -/
abbrev Destination := Option String

inductive Task where
  | render (input : String) (extended : Bool) (destination : Destination)
  | code (input : Option String) (language : Option String) (directive : String)
      (inline : Option Nat) (destination : Destination)
  | themes
  | languages
deriving DecidableEq, Repr

inductive Command where
  | version
  | perform (verbose : Bool) (source : SettingsSource) (task : Task)
deriving DecidableEq, Repr

inductive TaskName where
  | render
  | code
  | themes
  | languages
deriving DecidableEq, Repr

namespace TaskName

def all : List (String × TaskName) :=
  [("render", render), ("code", code), ("themes", themes), ("languages", languages)]

def read? (text : String) : Option TaskName := all.lookup text

/-- The options that every task knows. -/
def sharedForms : List OptionForm := [
  ⟨"verbose", some 'v', .absent, false⟩,
  ⟨"config", some 'c', .path, false⟩,
  ⟨"theme", none, .text, true⟩,
  ⟨"theme-dir", none, .path, false⟩]

def outputForm : OptionForm := ⟨"output", some 'o', .path, false⟩

def ownForms : TaskName → List OptionForm
  | render => [outputForm, ⟨"no-gfm", none, .absent, false⟩]
  | code => [
      ⟨"lang", some 'l', .text, false⟩,
      ⟨"meta", some 'm', .text, false⟩,
      ⟨"inline", none, .index, false⟩,
      outputForm]
  | themes | languages => []

def operandLimit : TaskName → Nat
  | render | code => 1
  | themes | languages => 0

end TaskName

namespace SettingsSource

def ofArguments (arguments : Arguments) : SettingsSource where
  path := arguments.value? "config"
  themes := arguments.values "theme"
  themeFolder := arguments.value? "theme-dir"

end SettingsSource

namespace Task

/-- Only the rendering of a document needs an operand. -/
def ofArguments? (name : TaskName) (arguments : Arguments) : Option Task :=
  let input := arguments.operands.head?
  let destination := arguments.value? "output"
  match name with
  | .render => input.map fun input => .render input (!arguments.has "no-gfm") destination
  | .code => some <| .code input (arguments.value? "lang") ((arguments.value? "meta").getD "")
      ((arguments.value? "inline").bind fun line => (Text.readIndex? line.toList).map UInt64.toNat)
      destination
  | .themes => some .themes
  | .languages => some .languages

end Task

namespace Command

/-- Reads what follows the name of a task. -/
def readTask? (verbose : Bool) (name : TaskName) (texts : List String) : Option Command := do
  let arguments ← Arguments.read? (TaskName.sharedForms ++ name.ownForms) name.operandLimit texts
  let task ← Task.ofArguments? name arguments
  pure (perform (verbose || arguments.has "verbose") (.ofArguments arguments) task)

/-- What an argument before the name of a task comes to. -/
inductive Opening where
  | version
  | misuse
  | more (verbose : Bool)

namespace Opening

/-- The letters that an argument stands for; a dash is no such letter. -/
def letters (text : String) : List Char :=
  if text = "--verbose" then ['v']
  else if text = "--version" then ['V']
  else
    match Argument.ofText text.toList with
    | .letters letters => letters
    | _ => ['-']

/-- Whoever asks for the version gets it whatever comes next. -/
def ofLetters (verbose : Bool) : List Char → Opening
  | [] => more verbose
  | 'V' :: _ => version
  | 'v' :: rest => if verbose then misuse else ofLetters true rest
  | _ :: _ => misuse

end Opening

def readFrom (verbose : Bool) : List String → Option Command
  | [] => none
  | text :: rest =>
      match TaskName.read? text with
      | some name => readTask? verbose name rest
      | none =>
          match Opening.ofLetters verbose (Opening.letters text) with
          | .version => some version
          | .misuse => none
          | .more verbose => readFrom verbose rest

/-- Reads a command line; there is none for arguments that make no sense. -/
def read? (texts : List String) : Option Command := readFrom false texts

end Command

end Listings

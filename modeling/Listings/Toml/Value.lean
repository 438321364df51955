/-
This file defines the values of a TOML document and how its statements fill tables.
-/

namespace Listings.Toml

/-- How a table came to be, which decides what may still be added to it. -/
inductive Origin where
  /-- Written in braces; complete. -/
  | braced
  /-- Named only on the way to another table. -/
  | implied
  /-- Opened by a header of its own. -/
  | header
  /-- Made by a key with dots. -/
  | dotted
deriving DecidableEq, Repr

inductive Value where
  | text (content : String)
  | integer (number : Int)
  | float (written : String)
  | boolean (value : Bool)
  | moment (written : String)
  | array (items : List Value)
  | table (origin : Origin) (entries : List (String × Value))
  /-- The tables that repeated headers have opened. -/
  | tables (items : List Value)
deriving Inhabited

abbrev Entries := List (String × Value)

namespace Entries

/-- Replaces the value of a key that is there. -/
def replace (key : String) (value : Value) (entries : Entries) : Entries :=
  entries.map fun entry => if entry.1 == key then (key, value) else entry

/-- Changes the last of several tables. -/
def changeLast (change : Entries → Option Entries) (items : List Value) : Option (List Value) :=
  match items.reverse with
  | .table origin entries :: before =>
      (change entries).map fun changed => (Value.table origin changed :: before).reverse
  | _ => none

/-- Opens the table that a header names. -/
def openTable : List String → Entries → Option Entries
  | [], entries => some entries
  | [key], entries =>
      match entries.lookup key with
      | none => some (entries ++ [(key, .table .header [])])
      | some (.table .implied inner) => some (replace key (.table .header inner) entries)
      | some _ => none
  | key :: path, entries =>
      match entries.lookup key with
      | none => (openTable path []).map fun inner => entries ++ [(key, .table .implied inner)]
      | some (.table .braced _) => none
      | some (.table origin inner) =>
          (openTable path inner).map fun changed => replace key (.table origin changed) entries
      | some (.tables items) =>
          (changeLast (openTable path) items).map fun changed =>
            replace key (.tables changed) entries
      | some _ => none

/-- Opens one more table under the name of a repeated header. -/
def openNext : List String → Entries → Option Entries
  | [], entries => some entries
  | [key], entries =>
      match entries.lookup key with
      | none => some (entries ++ [(key, .tables [.table .header []])])
      | some (.tables items) =>
          some (replace key (.tables (items ++ [.table .header []])) entries)
      | some _ => none
  | key :: path, entries =>
      match entries.lookup key with
      | none => (openNext path []).map fun inner => entries ++ [(key, .table .implied inner)]
      | some (.table .braced _) => none
      | some (.table origin inner) =>
          (openNext path inner).map fun changed => replace key (.table origin changed) entries
      | some (.tables items) =>
          (changeLast (openNext path) items).map fun changed =>
            replace key (.tables changed) entries
      | some _ => none

/-- Sets a key below the tables that dots lead through; no key is set twice. -/
def assign (value : Value) : List String → Entries → Option Entries
  | [], _ => none
  | [key], entries =>
      match entries.lookup key with
      | none => some (entries ++ [(key, value)])
      | some _ => none
  | key :: path, entries =>
      match entries.lookup key with
      | none => (assign value path []).map fun inner => entries ++ [(key, .table .dotted inner)]
      | some (.table .dotted inner) =>
          (assign value path inner).map fun changed => replace key (.table .dotted changed) entries
      | some (.table .implied inner) =>
          if path.length ≤ 1 then none
          else
            (assign value path inner).map fun changed =>
              replace key (.table .implied changed) entries
      | some _ => none

/-- Changes the table that the last header has opened. -/
def within (change : Entries → Option Entries) : List String → Entries → Option Entries
  | [], entries => change entries
  | key :: path, entries =>
      match entries.lookup key with
      | some (.table origin inner) =>
          (within change path inner).map fun changed => replace key (.table origin changed) entries
      | some (.tables items) =>
          (changeLast (within change path) items).map fun changed =>
            replace key (.tables changed) entries
      | _ => none

end Entries

/-- What one line of a document does. -/
inductive Statement where
  | openTable (path : List String)
  | openNext (path : List String)
  | assign (path : List String) (value : Value)

/-- The document so far and the header that its next keys belong to. -/
structure Filling where
  entries : Entries := []
  path : List String := []

def Filling.apply (filling : Filling) : Statement → Option Filling
  | .openTable path => (filling.entries.openTable path).map fun entries => ⟨entries, path⟩
  | .openNext path => (filling.entries.openNext path).map fun entries => ⟨entries, path⟩
  | .assign path value =>
      (Entries.within (Entries.assign value path) filling.path filling.entries).map fun entries =>
        { filling with entries := entries }

/-- The root table that statements fill, if they fit together. -/
def Entries.ofStatements? (statements : List Statement) : Option Entries :=
  (statements.foldlM Filling.apply {}).map Filling.entries

end Listings.Toml

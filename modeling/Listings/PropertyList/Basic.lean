/-
This file defines the values of a property list.
-/

namespace Listings

inductive PropertyList where
  | text (content : String)
  /-- A number or a truth value. -/
  | scalar (written : String)
  | list (items : List PropertyList)
  | record (entries : List (String × PropertyList))
deriving Inhabited

namespace PropertyList

def text? : PropertyList → Option String
  | text content => some content
  | _ => none

def list? : PropertyList → Option (List PropertyList)
  | list items => some items
  | _ => none

/-- A later entry of a name counts in place of an earlier one. -/
def record? : PropertyList → Option (List (String × PropertyList))
  | record entries => some entries.reverse
  | _ => none

def entry? (name : String) (value : PropertyList) : Option PropertyList :=
  value.record?.bind fun entries => entries.lookup name

end PropertyList

end Listings

/-
This file holds the attributes of an element, in ascending order of their names.
-/

namespace Listings.Markup

/-- What an attribute is set to. -/
inductive Attribute where
  | text (value : String)
  | flag (isSet : Bool)
  | list (items : List String)
deriving DecidableEq, Repr, Inhabited

namespace Attribute

def text? : Attribute → Option String
  | text value => some value
  | _ => none

def list? : Attribute → Option (List String)
  | list items => some items
  | _ => none

end Attribute

abbrev Entry := String × Attribute

/-- The order of attribute names in written markup. -/
def Entry.Before (a b : Entry) : Prop := a.1 < b.1

instance (a b : Entry) : Decidable (Entry.Before a b) :=
  inferInstanceAs (Decidable (_ < _))

/-- Each name occurs once, and names ascend. -/
structure Attributes where
  entries : List Entry
  ascending : entries.Pairwise Entry.Before
deriving DecidableEq

namespace Attributes

def empty : Attributes := ⟨[], List.Pairwise.nil⟩

instance : EmptyCollection Attributes := ⟨empty⟩
instance : Inhabited Attributes := ⟨empty⟩

/-- The old value of a name gives way to the new one. -/
def place (entry : Entry) : List Entry → List Entry
  | [] => [entry]
  | other :: rest =>
      if entry.1 < other.1 then entry :: other :: rest
      else if other.1 < entry.1 then other :: place entry rest
      else entry :: rest

theorem before_place {low entry : Entry} {entries : List Entry}
    (before : low.Before entry) (all : ∀ other ∈ entries, low.Before other) :
    ∀ other ∈ place entry entries, low.Before other := by
  induction entries with
  | nil => simpa [place] using before
  | cons head rest inductionHypothesis =>
      intro other member
      rw [place] at member
      split at member
      · rcases List.mem_cons.1 member with rfl | member
        · exact before
        · exact all other member
      · split at member
        · rcases List.mem_cons.1 member with rfl | member
          · exact all _ (by simp)
          · exact inductionHypothesis (fun other member => all other (by simp [member]))
              other member
        · rcases List.mem_cons.1 member with rfl | member
          · exact before
          · exact all other (by simp [member])

theorem place_ascending {entry : Entry} {entries : List Entry}
    (ascending : entries.Pairwise Entry.Before) :
    (place entry entries).Pairwise Entry.Before := by
  induction entries with
  | nil => simp [place]
  | cons head rest inductionHypothesis =>
      have headBefore := (List.pairwise_cons.1 ascending).1
      have restAscending := (List.pairwise_cons.1 ascending).2
      rw [place]
      split
      · rename_i less
        refine List.pairwise_cons.2 ⟨?_, ascending⟩
        intro other member
        rcases List.mem_cons.1 member with rfl | member
        · exact less
        · exact String.lt_trans less (headBefore other member)
      · split
        · rename_i less
          exact List.pairwise_cons.2
            ⟨before_place less headBefore, inductionHypothesis restAscending⟩
        · rename_i notLess notGreater
          have same : entry.1 = head.1 := String.le_antisymm
            (String.not_lt.1 notGreater) (String.not_lt.1 notLess)
          refine List.pairwise_cons.2 ⟨?_, restAscending⟩
          intro other member
          have := headBefore other member
          simp only [Entry.Before] at *
          rwa [same]

def insert (name : String) (value : Attribute) (attributes : Attributes) : Attributes :=
  ⟨place (name, value) attributes.entries, place_ascending attributes.ascending⟩

def erase (name : String) (attributes : Attributes) : Attributes :=
  ⟨attributes.entries.filter fun entry => entry.1 ≠ name,
    attributes.ascending.sublist List.filter_sublist⟩

def get? (attributes : Attributes) (name : String) : Option Attribute :=
  attributes.entries.lookup name

def ofList (entries : List Entry) : Attributes :=
  entries.foldl (fun attributes entry => attributes.insert entry.1 entry.2) empty

def toList (attributes : Attributes) : List Entry := attributes.entries

/-- Later attributes win over those of the same name. -/
def union (attributes later : Attributes) : Attributes :=
  later.entries.foldl (fun attributes entry => attributes.insert entry.1 entry.2) attributes

end Attributes

end Listings.Markup

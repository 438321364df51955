/-
This file shows that attributes are what is found under their names.
-/

import Listings.Markup.Attribute
import Listings.Proofs.NamedEntries
import Mathlib.Data.List.Perm.Lattice
import Mathlib.Data.List.Sort

namespace Listings.Markup

namespace Attributes

/-- What is placed under a name replaces what was there, and nothing else. -/
theorem lookup_place (name other : String) (value : Attribute) (entries : List Entry) :
    (place (name, value) entries).lookup other =
      if other = name then some value else entries.lookup other := by
  induction entries with
  | nil => exact lookup_cons_eq_ite other (name, value) []
  | cons head rest inductionHypothesis =>
      rw [place]
      split
      · exact lookup_cons_eq_ite _ _ _
      · split
        · rename_i less
          rw [lookup_cons_eq_ite, lookup_cons_eq_ite, inductionHypothesis]
          by_cases isHead : other = head.1
          · have different : other ≠ name := by
              rintro rfl
              exact String.lt_irrefl _ (isHead ▸ less)
            rw [if_pos isHead, if_pos isHead, if_neg different]
          · rw [if_neg isHead, if_neg isHead]
        · rename_i notLess notGreater
          have same : name = head.1 := String.le_antisymm
            (String.not_lt.1 notGreater) (String.not_lt.1 notLess)
          rw [lookup_cons_eq_ite, lookup_cons_eq_ite, same]
          by_cases isHead : other = head.1
          · rw [if_pos isHead, if_pos isHead]
          · rw [if_neg isHead, if_neg isHead, if_neg isHead]

theorem get?_insert (attributes : Attributes) (name other : String) (value : Attribute) :
    (attributes.insert name value).get? other =
      if other = name then some value else attributes.get? other :=
  lookup_place name other value attributes.entries

theorem lookup_eq_some_iff {entries : List Entry} (ascending : entries.Pairwise Entry.Before)
    {name : String} {value : Attribute} :
    entries.lookup name = some value ↔ (name, value) ∈ entries := by
  induction entries with
  | nil => simp
  | cons head rest inductionHypothesis =>
      obtain ⟨headBefore, restAscending⟩ := List.pairwise_cons.1 ascending
      rw [lookup_cons_eq_ite, List.mem_cons, ← inductionHypothesis restAscending]
      by_cases same : name = head.1
      · have notInRest : rest.lookup name ≠ some value := by
          intro found
          have less := headBefore _ ((inductionHypothesis restAscending).1 found)
          exact String.lt_irrefl _ (same ▸ less)
        rw [if_pos same, or_iff_left notInRest, Option.some.injEq, Prod.ext_iff]
        exact ⟨fun isValue => ⟨same, isValue.symm⟩, fun isHead => isHead.2.symm⟩
      · have notHead : (name, value) ≠ head := fun isHead => same (congrArg Prod.fst isHead)
        rw [if_neg same, or_iff_right notHead]

/-- Where both have a name, the later attributes win. -/
theorem get?_union (attributes later : Attributes) (name : String) :
    (attributes.union later).get? name = (later.get? name).or (attributes.get? name) := by
  obtain ⟨entries, ascending⟩ := later
  change (entries.foldl _ attributes).get? name = (entries.lookup name).or _
  -- The attributes vary, since every entry is put into those that the ones before it left.
  induction entries generalizing attributes with
  | nil => rfl
  | cons head rest inductionHypothesis =>
      obtain ⟨headBefore, restAscending⟩ := List.pairwise_cons.1 ascending
      have further := inductionHypothesis (attributes.insert head.1 head.2) restAscending
      rw [List.foldl_cons, further, get?_insert, lookup_cons_eq_ite]
      by_cases isHead : name = head.1
      · have notInRest : rest.lookup name = none := by
          rw [Option.eq_none_iff_forall_ne_some]
          intro value found
          have less := headBefore _ ((lookup_eq_some_iff restAscending).1 found)
          exact String.lt_irrefl _ (isHead ▸ less)
        rw [if_pos isHead, if_pos isHead, notInRest, Option.none_or, Option.some_or]
      · rw [if_neg isHead, if_neg isHead]

theorem nodup_of_ascending {entries : List Entry} (ascending : entries.Pairwise Entry.Before) :
    entries.Nodup := by
  refine ascending.imp ?_
  rintro entry other less rfl
  exact String.lt_irrefl _ less

/-- Two sets of attributes are the same if the same is found under every name. -/
theorem ext_get? {attributes others : Attributes}
    (same : ∀ name, attributes.get? name = others.get? name) : attributes = others := by
  obtain ⟨entries, ascending⟩ := attributes
  obtain ⟨otherEntries, otherAscending⟩ := others
  rw [mk.injEq]
  have members : ∀ entry, entry ∈ entries ↔ entry ∈ otherEntries := by
    rintro ⟨name, value⟩
    rw [← lookup_eq_some_iff ascending, ← lookup_eq_some_iff otherAscending]
    exact Eq.congr_left (same name)
  exact List.Perm.eq_of_pairwise (fun _ _ _ _ less greater => absurd greater (String.lt_asymm less))
    ascending otherAscending
    ((List.perm_ext_iff_of_nodup (nodup_of_ascending ascending)
      (nodup_of_ascending otherAscending)).2 members)

end Attributes

end Listings.Markup

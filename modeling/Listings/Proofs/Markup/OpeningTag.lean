/-
This file reads the attributes and the classes of an element back from its HTML.
-/

import Listings.Proofs.Markup.Building
import Listings.Proofs.Markup.Lookup
import Listings.Proofs.Markup.Unambiguous
import Listings.Proofs.Text.Pieces

namespace Listings.Markup

/-- What parts the attributes of a tag, and the classes in a list of them. -/
def isSpace (c : Char) : Bool := [' ', '\t', '\n', '\x0c', '\r'].contains c

/-- The place of a reader in an opening tag, with what it has read of an attribute. -/
inductive TagPlace where
  | tagName
  | between
  | attributeName (name : List Char)
  | beforeValue (name : List Char)
  | inValue (name value : List Char)

namespace TagPlace

/-- The attributes from a place to the end of the tag: a value stands between double quotes, with
entities for some characters, and a name without one is a flag. -/
def read : TagPlace → List Char → List Entry
  | _, [] => []
  | tagName, c :: rest =>
      if c = '>' then [] else if isSpace c then read between rest else read tagName rest
  | between, c :: rest =>
      if c = '>' then [] else if isSpace c then read between rest
      else read (attributeName [c]) rest
  | attributeName name, c :: rest =>
      if c = '=' then read (beforeValue name) rest
      else if c = '>' then [(String.ofList name, .flag true)]
      else if isSpace c then (String.ofList name, .flag true) :: read between rest
      else read (attributeName (name ++ [c])) rest
  | beforeValue name, c :: rest =>
      if c = '"' then read (inValue name []) rest else read (beforeValue name) rest
  | inValue name value, c :: rest =>
      if c = '"' then
        (String.ofList name, .text (String.ofList (unescape value))) :: read between rest
      else read (inValue name (value ++ [c])) rest

variable {text rest : List Char}

theorem isSpace_of_isNameChar {c : Char} (named : isNameChar c = true) : isSpace c = false := by
  rw [Bool.eq_false_iff]
  intro space
  revert named
  simp only [isSpace, List.contains_iff_mem, List.mem_cons, List.not_mem_nil, or_false] at space
  rcases space with rfl | rfl | rfl | rfl | rfl <;> decide

theorem ne_of_isNameChar {c markup : Char} (isMarkup : isNameChar markup = false)
    (named : isNameChar c = true) : c ≠ markup := by
  rintro rfl
  exact Bool.noConfusion (isMarkup.symm.trans named)

theorem read_tagName (named : ∀ c ∈ text, isNameChar c = true) :
    read tagName (text ++ rest) = read tagName rest := by
  induction text with
  | nil => rfl
  | cons c more inductionHypothesis =>
      obtain ⟨cNamed, moreNamed⟩ := List.forall_mem_cons.1 named
      rw [List.cons_append, read, if_neg (ne_of_isNameChar (by decide) cNamed),
        isSpace_of_isNameChar cNamed, if_neg Bool.false_ne_true, inductionHypothesis moreNamed]

/-- The attributes begin where the name of the tag ends. -/
theorem read_tagName_eq_between (separated : ∀ c ∈ rest.head?, c = ' ' ∨ c = '>') :
    read tagName rest = read between rest := by
  cases rest with
  | nil => rfl
  | cons c more => rcases separated c rfl with rfl | rfl <;> rfl

theorem read_attributeName (named : ∀ c ∈ text, isNameChar c = true) (name : List Char) :
    read (attributeName name) (text ++ rest) = read (attributeName (name ++ text)) rest := by
  induction text generalizing name with
  | nil => rw [List.append_nil, List.nil_append]
  | cons c more inductionHypothesis =>
      obtain ⟨cNamed, moreNamed⟩ := List.forall_mem_cons.1 named
      rw [List.cons_append, read, if_neg (ne_of_isNameChar (by decide) cNamed),
        if_neg (ne_of_isNameChar (by decide) cNamed), isSpace_of_isNameChar cNamed,
        if_neg Bool.false_ne_true, inductionHypothesis moreNamed, List.append_assoc]
      rfl

/-- A value goes on to the next quote, and there is none in what is written of it. -/
theorem read_inValue (unquoted : ∀ c ∈ text, c ≠ '"') (name value : List Char) :
    read (inValue name value) (text ++ '"' :: rest) =
      (String.ofList name, .text (String.ofList (unescape (value ++ text)))) ::
        read between rest := by
  induction text generalizing value with
  | nil => rw [List.nil_append, read, if_pos rfl, List.append_nil]
  | cons c more inductionHypothesis =>
      obtain ⟨cUnquoted, moreUnquoted⟩ := List.forall_mem_cons.1 unquoted
      rw [List.cons_append, read, if_neg cUnquoted, inductionHypothesis moreUnquoted,
        List.append_assoc]
      rfl

theorem read_valueHtml {value : Attribute} (normal : value.isNormal = true)
    (separated : ∀ c ∈ rest.head?, c = ' ' ∨ c = '>') (nonempty : rest ≠ []) (name : String) :
    read (attributeName name.toList) (value.valueHtml ++ rest) =
      (name, value) :: read between rest := by
  cases value with
  | list items => contradiction
  | text content =>
      have unquoted : ∀ c ∈ escape content.toList, c ≠ '"' := by
        rintro c member rfl
        exact absurd (escape_undelimited _ _ member) (by decide)
      have written : Attribute.valueHtml (.text content) ++ rest =
          '=' :: '"' :: (escape content.toList ++ '"' :: rest) := by
        simp [Attribute.valueHtml]
      rw [written, read, if_pos rfl, read, if_pos rfl, read_inValue unquoted, List.nil_append,
        unescape_escape, String.ofList_toList, String.ofList_toList]
  | flag isSet =>
      cases isSet
      · contradiction
      obtain ⟨c, more, rfl⟩ := List.exists_cons_of_ne_nil nonempty
      change read (attributeName name.toList) (c :: more) = _
      rcases separated c rfl with rfl | rfl
      · simp [read, isSpace]
      · simp [read]

/-- All attributes of a tag are read, in their order. -/
theorem read_entriesHtml {entries : List Entry}
    (named : (entries.all fun entry => isName entry.1) = true)
    (normal : (entries.all fun entry => entry.2.isNormal) = true) :
    read between (Attributes.entriesHtml entries ++ '>' :: rest) = entries := by
  induction entries with
  | nil => exact if_pos rfl
  | cons entry more inductionHypothesis =>
      rw [List.all_cons, Bool.and_eq_true] at named normal
      have separated := Attributes.head?_entriesHtml normal.2 rest
      obtain ⟨first, others, spelled⟩ : ∃ first others, entry.1.toList = first :: others := by
        refine List.exists_cons_of_ne_nil fun empty => ?_
        simp [isName, empty] at named
      have nameChars := all_of_isName named.1
      rw [spelled] at nameChars
      obtain ⟨firstNamed, othersNamed⟩ := List.forall_mem_cons.1 nameChars
      rw [Attributes.entriesHtml_cons normal.1, read, if_neg (by decide), if_pos (by decide),
        spelled, List.cons_append, read, if_neg (ne_of_isNameChar (by decide) firstNamed),
        isSpace_of_isNameChar firstNamed, if_neg Bool.false_ne_true,
        read_attributeName othersNamed, List.singleton_append, ← spelled,
        read_valueHtml normal.1 separated (by simp), inductionHypothesis named.2 normal.2]

end TagPlace

/-- The attributes of the first tag in some HTML. -/
def attributesOf (html : String) : List Entry :=
  match html.toList with
  | '<' :: rest => TagPlace.tagName.read rest
  | _ => []

/-- The names in a list of classes. -/
def classNames (value : List Char) : List String :=
  ((Text.pieces isSpace value).filter fun piece => !piece.isEmpty).map String.ofList

/-- The classes that the first tag in some HTML gives to its element. -/
def classesOf (html : String) : List String :=
  match (attributesOf html).lookup "class" with
  | some (.text value) => classNames value.toList
  | _ => []

section ClassNames

variable {name : String}

theorem no_space_of_all {text : List Char} (all : (text.all fun c => !isSpace c) = true) :
    ∀ c ∈ text, isSpace c = false := by
  intro c member
  simpa using List.all_eq_true.1 all c member

theorem no_space_of_mem_classNames {value : List Char} (member : name ∈ classNames value) :
    ∀ c ∈ name.toList, isSpace c = false := by
  obtain ⟨piece, inPieces, rfl⟩ := List.mem_map.1 member
  rw [String.toList_ofList]
  exact Text.whole_of_mem_pieces (List.mem_filter.1 inPieces).1

/-- A name counts as one class exactly if there is no space in it. -/
theorem classNames_eq_singleton_iff (nonempty : name ≠ "") :
    classNames name.toList = [name] ↔ ∀ c ∈ name.toList, isSpace c = false := by
  constructor
  · intro single
    have member : name ∈ classNames name.toList := by
      rw [single]
      exact List.mem_singleton_self name
    exact no_space_of_mem_classNames member
  · intro whole
    rw [classNames, Text.pieces_eq_singleton whole]
    simp [nonempty]

theorem classNames_append_space (value rest : List Char) :
    classNames (value ++ ' ' :: rest) = classNames value ++ classNames rest := by
  rw [classNames, Text.pieces_append_stop (by decide), List.filter_append, List.map_append]
  rfl

/-- Where items are written as one list, each item gives its own classes. -/
theorem classNames_intercalate (items : List String) :
    classNames (" ".intercalate items).toList =
      items.flatMap fun item => classNames item.toList := by
  rw [String.toList_intercalate]
  induction items with
  | nil => rfl
  | cons item more inductionHypothesis =>
      cases more with
      | nil => rw [List.map_singleton, List.intercalate_singleton, List.flatMap_singleton]
      | cons next others =>
          rw [List.flatMap_cons, ← inductionHypothesis, ← classNames_append_space]
          simp [List.intercalate_cons_cons]

end ClassNames

theorem Attributes.get?_normal (attributes : Attributes) (name : String) :
    attributes.normal.get? name = (attributes.get? name).bind Attribute.normal? := by
  ext value
  rw [get?, lookup_eq_some_iff attributes.normal.ascending, Option.bind_eq_some_iff]
  change (name, value) ∈ attributes.entries.filterMap Entry.normal? ↔ _
  simp only [List.mem_filterMap, Entry.normal?, Option.map_eq_some_iff, get?,
    lookup_eq_some_iff attributes.ascending]
  constructor
  · rintro ⟨⟨_, before⟩, member, kept, normal, same⟩
    cases same
    exact ⟨before, member, normal⟩
  · rintro ⟨before, member, normal⟩
    exact ⟨(name, before), member, value, normal, rfl⟩

namespace Element

variable {element : Element}

/-- The attributes of an element stand in the opening tag of its HTML. -/
theorem attributesOf_html (named : element.wellNamed = true) :
    attributesOf element.html = element.attributes.normal.entries := by
  obtain ⟨tagNamed, attributesNamed, _⟩ := wellNamed_iff.1 named
  have normal := element.attributes.isNormal_normal
  have written : element.html.toList = '<' :: (element.tag.toList ++
      (Attributes.entriesHtml element.attributes.normal.entries ++ '>' ::
        (Forest.html element.children ++ closeTag element.tag))) := by
    have sameHtml : Attributes.entriesHtml element.attributes.normal.entries =
        element.attributes.html := element.attributes.html_normal
    simp [html, toNode, openTag, sameHtml]
  rw [attributesOf, written]
  change TagPlace.tagName.read _ = _
  rw [TagPlace.read_tagName (all_of_isName tagNamed),
    TagPlace.read_tagName_eq_between (Attributes.head?_entriesHtml normal _)]
  exact TagPlace.read_entriesHtml (Attributes.wellNamed_normal attributesNamed) normal

theorem lookup_attributesOf_html (named : element.wellNamed = true) (name : String) :
    (attributesOf element.html).lookup name =
      (element.attribute? name).bind Attribute.normal? := by
  rw [attributesOf_html named]
  exact element.attributes.get?_normal name

/-- What the classes of an element become in its HTML. -/
theorem classesOf_html (named : element.wellNamed = true) {items : List String}
    (classes : element.attribute? "class" = some (.list items)) :
    classesOf element.html = items.flatMap fun item => classNames item.toList := by
  rw [classesOf, lookup_attributesOf_html named, classes, ← classNames_intercalate]
  cases items <;> rfl

end Element

end Listings.Markup

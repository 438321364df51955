/-
This file says which attributes a layout has, and that a directive has no say in any of them but the
`data-` attributes of a `pre` root.
-/

import Listings.Proofs.Directive.LineTokens
import Listings.Proofs.Layout.Lines

namespace Listings

namespace Markup.Element

/-- All attributes of the element have names of one kind. -/
def HasOnly (kind : String → Prop) (element : Element) : Prop :=
  ∀ name, (element.attribute? name).isSome = true → kind name

/-- What decides how an element is shown. -/
structure Look where
  tag : String
  classes : Option Attribute
  style : Option Attribute

def look (element : Element) : Look :=
  ⟨element.tag, element.attribute? "class", element.attribute? "style"⟩

/-- Nothing differs but attributes of a `pre` root. -/
structure SameBelow (first second : Element) : Prop where
  tag : second.tag = first.tag
  children : second.children = first.children
  attributes : first.tag ≠ "pre" → second.attributes = first.attributes

variable {kind : String → Prop} {element first second : Element}

theorem hasOnly_mk (tag : String) (children : List Node) :
    (Element.mk tag ∅ children).HasOnly kind := by
  intro name found
  have absent : (Element.mk tag ∅ children).attribute? name = none := rfl
  simp [absent] at found

theorem HasOnly.withAttribute {name : String} (named : kind name) (only : element.HasOnly kind)
    (value : Attribute) : (element.withAttribute name value).HasOnly kind := by
  intro other found
  rw [attribute?_withAttribute] at found
  by_cases same : other = name
  · rwa [same]
  · rw [if_neg same] at found
    exact only other found

theorem HasOnly.eraseEverywhere (only : element.HasOnly kind) (name : String) :
    (element.eraseEverywhere name).HasOnly kind := by
  intro other found
  rw [attribute?_eraseEverywhere] at found
  split at found
  · contradiction
  · exact only other found

theorem HasOnly.imp {other : String → Prop} (only : element.HasOnly kind)
    (weaker : ∀ name, kind name → other name) : element.HasOnly other :=
  fun name found => weaker name (only name found)

theorem look_eraseEverywhere (element : Element) :
    (element.eraseEverywhere scopeAttribute).look = element.look := by
  have classes := attribute?_eraseEverywhere scopeAttribute "class" element
  have style := attribute?_eraseEverywhere scopeAttribute "style" element
  rw [if_neg (by decide)] at classes style
  rw [look, classes, style]
  rfl

theorem at?_look_stripScopes (element : Element) (path : List Nat) :
    (element.stripScopes.at? path).map look = (element.at? path).map look := by
  rw [stripScopes, at?_eraseEverywhere, Option.map_map]
  exact congrArg (Option.map · (element.at? path)) (funext look_eraseEverywhere)

theorem SameBelow.at?_look (same : SameBelow first second) (looks : second.look = first.look)
    (path : List Nat) : (second.at? path).map look = (first.at? path).map look := by
  cases path with
  | nil => exact congrArg some looks
  | cons index path =>
      rw [at?, at?, toNode, toNode, Node.at?_cons, Node.at?_cons, same.children]

theorem SameBelow.stripScopes (same : SameBelow first second) :
    SameBelow first.stripScopes second.stripScopes where
  tag := same.tag
  children := congrArg (Forest.eraseAttribute scopeAttribute) same.children
  attributes := fun isFrameless =>
    congrArg (Attributes.erase scopeAttribute) (same.attributes isFrameless)

end Markup.Element

open Markup (Attributes Element Node)

namespace Layout

open Directive

variable {directive first second : Directive}

/-- What an element of a layout is like: a `pre` element alone has attributes of the kind that a
directive sets. -/
structure IsLaidOut (kind : String → Prop) (element : Element) : Prop where
  tag : element.tag ∈ ["pre", "div", "code", "span"]
  names : element.HasOnly fun name =>
    name ∈ ["class", "style", Element.scopeAttribute] ∨ element.tag = "pre" ∧ kind name

/-- The directive sets attributes of one kind. -/
def Sets (kind : String → Prop) (directive : Directive) : Prop :=
  ∀ name, (directive.attributes.get? name).isSome = true → kind name

variable {kind : String → Prop}

theorem isLaidOut_of_own {element : Element} (tag : element.tag ∈ ["div", "code", "span"])
    (only : element.HasOnly (· ∈ ["class", "style", Element.scopeAttribute])) :
    IsLaidOut kind element :=
  ⟨List.mem_cons_of_mem "pre" tag, only.imp fun _ => Or.inl⟩

theorem IsLaidOut.own {element : Element} (laidOut : IsLaidOut kind element)
    (frameless : element.tag ≠ "pre") {name : String}
    (found : (element.attribute? name).isSome = true) :
    name = "class" ∨ name = "style" ∨ name = "data-scope" := by
  obtain own | ⟨isPre, _⟩ := laidOut.names name found
  · simpa [Element.scopeAttribute] using own
  · contradiction

theorem isLaidOut_span (palette : Palette) (fragment : Fragment) :
    IsLaidOut kind (span palette fragment) := by
  have isSpan : "span" ∈ ["div", "code", "span"] := by decide
  have styled : ((Element.mk "span" ∅ []).withText "style" (spanStyle palette fragment)).HasOnly
      (· ∈ ["class", "style", Element.scopeAttribute]) :=
    (Element.hasOnly_mk "span" []).withAttribute (by decide) _
  unfold span withScopeText
  split
  · exact isLaidOut_of_own isSpan (styled.withAttribute (by decide) _)
  · exact isLaidOut_of_own isSpan styled

theorem isLaidOut_line (palette : Palette) (marked : Bool) (fragments : Line) :
    IsLaidOut kind (line palette marked fragments) := by
  apply isLaidOut_of_own (by decide : "div" ∈ ["div", "code", "span"])
  exact (Element.hasOnly_mk "div" []).withAttribute (by decide) _

theorem isLaidOut_container (code : Element) : IsLaidOut kind (container code) := by
  apply isLaidOut_of_own (by decide : "div" ∈ ["div", "code", "span"])
  exact (Element.hasOnly_mk "div" []).withAttribute (by decide) _

theorem isLaidOut_cutCode (directive : Directive) (tokens : TokenBlock) :
    IsLaidOut kind (cutCode directive tokens) :=
  isLaidOut_of_own (by decide : "code" ∈ ["div", "code", "span"]) (Element.hasOnly_mk "code" [])

theorem isLaidOut_wholeCode (text : String) (palette : Palette) :
    IsLaidOut kind (wholeCode text palette) := by
  apply isLaidOut_of_own (by decide : "code" ∈ ["div", "code", "span"])
  exact (Element.hasOnly_mk "code" []).withAttribute (by decide) _

/-- The attributes of the directive come after those of the theme. -/
theorem attribute?_blockRoot (palette : Palette) (directive : Directive) (name : String) :
    (blockRoot palette directive).attribute? name =
      (directive.attributes.get? name).or
        (if name = "style" then some (.text ("background-color: " ++ palette.background))
        else if name = "class" then some (.list (rootClasses palette)) else none) := by
  have themed : (((Element.mk "pre" ∅ []).withClasses (rootClasses palette)).withText "style"
      ("background-color: " ++ palette.background)).attribute? name =
        if name = "style" then some (.text ("background-color: " ++ palette.background))
        else if name = "class" then some (.list (rootClasses palette)) else none := by
    rw [Element.withText, Element.attribute?_withAttribute, Element.withClasses,
      Element.attribute?_withAttribute]
    rfl
  rw [← themed]
  exact Attributes.get?_union _ _ name

theorem isLaidOut_blockRoot (sets : Sets kind directive) (palette : Palette)
    (children : List Node) :
    IsLaidOut kind ((blockRoot palette directive).withChildren children) := by
  refine ⟨(by decide : "pre" ∈ ["pre", "div", "code", "span"]), ?_⟩
  intro name found
  change ((blockRoot palette directive).attribute? name).isSome = true at found
  rw [attribute?_blockRoot] at found
  cases set : directive.attributes.get? name with
  | some value => exact .inr ⟨rfl, sets name (by rw [set]; rfl)⟩
  | none =>
      rw [set, Option.none_or] at found
      by_cases isStyle : name = "style"
      · simp [isStyle]
      · by_cases isClass : name = "class"
        · simp [isClass]
        · simp [isStyle, isClass] at found

theorem everywhere_isLaidOut_root (sets : Sets kind directive) (tokens : TokenBlock) :
    (root directive tokens).toNode.Everywhere (IsLaidOut kind) := by
  have here : IsLaidOut kind (root directive tokens) := by
    unfold root
    split
    · apply isLaidOut_of_own (by decide : "div" ∈ ["div", "code", "span"])
      exact (Element.hasOnly_mk "div" []).withAttribute (by decide) _
    · exact isLaidOut_blockRoot sets tokens.palette _
  refine everywhere_toNode.2 ⟨here, ?_⟩
  apply everywhere_below_root
  · exact isLaidOut_container _
  · exact isLaidOut_cutCode directive tokens
  · exact isLaidOut_line tokens.palette
  · intro _ _ fragment _
    exact isLaidOut_span tokens.palette fragment

theorem everywhere_isLaidOut_plainRoot (sets : Sets kind directive) (text : String)
    (palette : Palette) :
    (plainRoot text directive palette).toNode.Everywhere (IsLaidOut kind) := by
  refine everywhere_toNode.2 ⟨isLaidOut_blockRoot sets palette _, ?_⟩
  apply everywhere_below_plainRoot
  · exact isLaidOut_container _
  · exact isLaidOut_wholeCode text palette

/-- Stripping the scopes adds nothing. -/
theorem everywhere_isLaidOut_unedited (sets : Sets kind directive) (tokens : TokenBlock) :
    (unedited directive tokens).toNode.Everywhere (IsLaidOut kind) := by
  have fresh := everywhere_isLaidOut_root sets tokens
  unfold unedited
  split
  · exact fresh
  · intro path element found
    change (root directive tokens).stripScopes.at? path = some element at found
    rw [Element.stripScopes, Element.at?_eraseEverywhere, Option.map_eq_some_iff] at found
    obtain ⟨before, there, rfl⟩ := found
    have laidOut := fresh path before there
    exact ⟨laidOut.tag, laidOut.names.eraseEverywhere _⟩

theorem cutCode_congr (alike : ShowsAlike first second) (tokens : TokenBlock) :
    cutCode second tokens = cutCode first tokens := by
  refine cutCode_eq_of_lines (fun index _ => ?_) fun index _ => ?_
  · rw [asksFor, asksFor, alike.shown, alike.hidden]
  · rw [isHighlighted, isHighlighted, alike.highlighted]

/-- A directive sets nothing below a root, and nothing at all on a single line. -/
theorem sameBelow_root (alike : ShowsAlike first second) (tokens : TokenBlock) :
    (root first tokens).SameBelow (root second tokens) := by
  unfold root
  rw [alike.inline]
  split
  · exact ⟨rfl, rfl, fun _ => rfl⟩
  · refine ⟨rfl, ?_, fun noFrame => absurd rfl noFrame⟩
    rw [children_block, children_block, cutCode_congr alike]

theorem sameBelow_plainRoot (text : String) (palette : Palette) :
    (plainRoot text first palette).SameBelow (plainRoot text second palette) :=
  ⟨rfl, rfl, fun noFrame => absurd rfl noFrame⟩

theorem sameBelow_unedited (alike : ShowsAlike first second)
    (preserves : second.preservesScopes = first.preservesScopes) (tokens : TokenBlock) :
    (unedited first tokens).SameBelow (unedited second tokens) := by
  unfold unedited
  rw [preserves]
  split
  · exact sameBelow_root alike tokens
  · exact (sameBelow_root alike tokens).stripScopes

/-- The theme alone decides how a root is shown. -/
theorem look_blockRoot (dataNames : directive.HasDataNames) (palette : Palette)
    (children : List Node) :
    ((blockRoot palette directive).withChildren children).look =
      ⟨"pre", some (.list (rootClasses palette)),
        some (.text ("background-color: " ++ palette.background))⟩ := by
  have classes := attribute?_blockRoot palette directive "class"
  have style := attribute?_blockRoot palette directive "style"
  rw [dataNames.get?_eq_none (by decide), Option.none_or, if_neg (by decide), if_pos rfl] at classes
  rw [dataNames.get?_eq_none (by decide), Option.none_or, if_pos rfl] at style
  exact congrArg₂ (Element.Look.mk "pre") classes style

theorem look_root (alike : ShowsAlike first second) (firstNames : first.HasDataNames)
    (secondNames : second.HasDataNames) (tokens : TokenBlock) :
    (root second tokens).look = (root first tokens).look := by
  unfold root
  rw [alike.inline]
  split
  · rfl
  · exact (look_blockRoot secondNames _ _).trans (look_blockRoot firstNames _ _).symm

theorem at?_look_unedited (directive : Directive) (tokens : TokenBlock) (path : List Nat) :
    ((unedited directive tokens).at? path).map Element.look =
      ((root directive tokens).at? path).map Element.look := by
  unfold unedited
  split
  · rfl
  · exact Element.at?_look_stripScopes _ path

variable {σ : Type}

/-- All trees that are made of blocks and of a text, cut into lines or left whole. -/
def trees (directive : Directive) (blocks : List TokenBlock) (text : String)
    (palettes : List Palette) (state : σ) : List Element :=
  (format directive ([] : List (EditMaker σ)) blocks state).1 ++ plain text palettes directive

theorem trees_eq (directive : Directive) (blocks : List TokenBlock) (text : String)
    (palettes : List Palette) (state : σ) :
    trees directive blocks text palettes state =
      blocks.map (unedited directive) ++ palettes.map (plainRoot text directive) := by
  rw [trees, format_without_makers]
  rfl

/-- What holds of every tree by itself. -/
theorem forall_mem_trees {blocks : List TokenBlock} {text : String} {palettes : List Palette}
    {state : σ} {holds : Element → Prop} (cut : ∀ tokens, holds (unedited directive tokens))
    (whole : ∀ palette, holds (plainRoot text directive palette)) :
    ∀ tree ∈ trees directive blocks text palettes state, holds tree := by
  rw [trees_eq]
  intro tree member
  obtain inBlocks | inPalettes := List.mem_append.1 member
  · obtain ⟨tokens, _, rfl⟩ := List.mem_map.1 inBlocks
    exact cut tokens
  · obtain ⟨palette, _, rfl⟩ := List.mem_map.1 inPalettes
    exact whole palette

/-- What holds of every tree and the one in its place under another directive. -/
theorem forall₂_trees {blocks : List TokenBlock} {text : String} {palettes : List Palette}
    {state : σ} {relates : Element → Element → Prop}
    (cut : ∀ tokens, relates (unedited first tokens) (unedited second tokens))
    (whole : ∀ palette, relates (plainRoot text first palette) (plainRoot text second palette)) :
    List.Forall₂ relates (trees first blocks text palettes state)
      (trees second blocks text palettes state) := by
  rw [trees_eq, trees_eq]
  apply List.rel_append
  · simp [List.forall₂_map_left_iff, List.forall₂_map_right_iff, List.forall₂_same, cut]
  · simp [List.forall₂_map_left_iff, List.forall₂_map_right_iff, List.forall₂_same, whole]

/-- Whatever characters a directive holds, it sets `data-` attributes of `pre` roots and no others:
everything else in its trees is as a directive with the same tokens about lines, and none about
`data-` names, would have it. -/
theorem directive_sets_only_data_attributes (raw text : String) (inline : Option Nat)
    (blocks : List TokenBlock) (palettes : List Palette) (state : σ) :
    let treesOf (raw : String) := trees (Directive.ofText raw inline) blocks text palettes state
    (∀ tree ∈ treesOf raw, tree.wellNamed = true ∧
      tree.toNode.Everywhere fun element => element.tag ∈ ["pre", "div", "code", "span"] ∧
        (∀ name, (element.attribute? name).isSome = true →
          name = "class" ∨ name = "style" ∨ name = "data-scope" ∨ IsData name) ∧
        (element.tag ≠ "pre" → ∀ name, (element.attribute? name).isSome = true →
          name = "class" ∨ name = "style" ∨ name = "data-scope")) ∧
    (∀ other : String, SameLineTokens raw other → NamesNoData other →
      List.Forall₂ (fun tree bare => ∀ path,
          (bare.at? path).map Element.look = (tree.at? path).map Element.look)
        (treesOf raw) (treesOf other) ∧
      (∀ bare ∈ treesOf other, bare.toNode.Everywhere fun element =>
        ∀ name, (element.attribute? name).isSome = true →
          name = "class" ∨ name = "style" ∨ name = "data-scope") ∧
      (("preserve-scopes".toList ∈ Text.words other.toList ↔
          "preserve-scopes".toList ∈ Text.words raw.toList) →
        List.Forall₂ Element.SameBelow (treesOf raw) (treesOf other))) ∧
    -- There is such a directive for every text.
    ∃ other : String, SameLineTokens raw other ∧ NamesNoData other ∧
      ("preserve-scopes".toList ∈ Text.words other.toList ↔
        "preserve-scopes".toList ∈ Text.words raw.toList) := by
  intro treesOf
  have named := (Directive.hasDataNames_ofText raw inline).wellNamed
  refine ⟨?_, ?_, withoutData raw, sameLineTokens_withoutData raw, namesNoData_withoutData raw, ?_⟩
  · have sets : Sets IsData (Directive.ofText raw inline) := fun _ => isData_of_get?_ofText
    have allowed : ∀ element, IsLaidOut IsData element →
        element.tag ∈ ["pre", "div", "code", "span"] ∧
        (∀ name, (element.attribute? name).isSome = true →
          name = "class" ∨ name = "style" ∨ name = "data-scope" ∨ IsData name) ∧
        (element.tag ≠ "pre" → ∀ name, (element.attribute? name).isSome = true →
          name = "class" ∨ name = "style" ∨ name = "data-scope") := by
      intro element laidOut
      refine ⟨laidOut.tag, ?_, fun frameless name => laidOut.own frameless⟩
      intro name found
      obtain own | ⟨_, data⟩ := laidOut.names name found
      · simp only [Element.scopeAttribute, List.mem_cons, List.not_mem_nil, or_false] at own
        obtain isClass | isStyle | isScope := own
        · exact .inl isClass
        · exact .inr (.inl isStyle)
        · exact .inr (.inr (.inl isScope))
      · exact .inr (.inr (.inr data))
    apply forall_mem_trees
    · intro tokens
      have laidOut := everywhere_isLaidOut_unedited sets tokens
      exact ⟨wellNamed_unedited named tokens, fun path element found =>
        allowed element (laidOut path element found)⟩
    · intro palette
      have laidOut := everywhere_isLaidOut_plainRoot sets text palette
      exact ⟨wellNamed_plainRoot named text palette, fun path element found =>
        allowed element (laidOut path element found)⟩
  · intro other same noData
    have alike := showsAlike_ofText same inline
    have rawNames := Directive.hasDataNames_ofText raw inline
    have otherNames := Directive.hasDataNames_ofText other inline
    have setsNothing : Sets (fun _ => False) (Directive.ofText other inline) := by
      intro name found
      simp [get?_ofText_eq_none noData] at found
    have own : ∀ element, IsLaidOut (fun _ => False) element → ∀ name,
        (element.attribute? name).isSome = true →
          name = "class" ∨ name = "style" ∨ name = "data-scope" := by
      intro element laidOut name found
      simpa [Element.scopeAttribute] using laidOut.names name found
    refine ⟨?_, ?_, ?_⟩
    · apply forall₂_trees
      · intro tokens path
        rw [at?_look_unedited, at?_look_unedited]
        have sameLook := look_root alike rawNames otherNames tokens
        exact (sameBelow_root alike tokens).at?_look sameLook path
      · intro palette
        exact (sameBelow_plainRoot text palette).at?_look
          ((look_blockRoot otherNames palette _).trans (look_blockRoot rawNames palette _).symm)
    · apply forall_mem_trees
      · intro tokens path element found
        exact own element (everywhere_isLaidOut_unedited setsNothing tokens path element found)
      · intro palette path element found
        exact own element
          (everywhere_isLaidOut_plainRoot setsNothing text palette path element found)
    · intro samePreserved
      have preserves : (Directive.ofText other inline).preservesScopes =
          (Directive.ofText raw inline).preservesScopes := by
        rw [Bool.eq_iff_iff, preservesScopes_ofText, preservesScopes_ofText, samePreserved]
      apply forall₂_trees
      · exact sameBelow_unedited alike preserves
      · exact sameBelow_plainRoot text
  · rw [words_withoutData, List.mem_filter]
    exact and_iff_left (by decide)

theorem directive_sets_only_data_attributes_of_hostile_tokens :
    let raw := "data-x='\"><a' onclick=1 class=a hide=0 data-scope style=b"
    let bare := "hide=0"
    let block : TokenBlock :=
      ⟨⟨"dark", "#fff", "#000"⟩, [[{ content := "a" }], [{ content := "b" }]]⟩
    let treesOf (raw : String) := trees (Directive.ofText raw none) [block] "a" [block.palette] ()
    SameLineTokens raw bare ∧ NamesNoData bare ∧
    List.Forall₂ Element.SameBelow (treesOf raw) (treesOf bare) ∧
    (treesOf raw).map (·.attribute? "data-x") = [some (.text "\"><a"), some (.text "\"><a")] ∧
    (treesOf raw).map (·.attribute? "onclick") = [none, none] ∧
    (treesOf raw).map (·.attribute? "style") = (treesOf bare).map (·.attribute? "style") := by
  intro raw bare block treesOf
  obtain ⟨_, compares, _⟩ :=
    directive_sets_only_data_attributes raw "a" none [block] [block.palette] ()
  have same : SameLineTokens raw bare := by
    unfold SameLineTokens
    decide
  have noData : NamesNoData bare := by
    unfold NamesNoData
    decide
  obtain ⟨_, _, below⟩ := compares bare same noData
  refine ⟨same, noData, below (by decide), ?_, ?_, ?_⟩
  · decide
  · decide
  · decide

end Layout

end Listings

/-
This file compares what the formatter makes with and without the scopes.
-/

import Listings.Proofs.Layout.Edits
import Listings.Proofs.Layout.Elements

namespace Listings.Layout

open Markup (Attributes Element Node)

variable {σ : Type} {directive : Directive}

/-- A span as the formatter makes it of some fragment in the lines. -/
def IsFormatted (tokens : TokenBlock) (element : Element) : Prop :=
  ∃ line ∈ tokens.lines, ∃ fragment ∈ line, element = span tokens.palette fragment

/-- No span comes from anywhere else. -/
def OnlyFormatted (tokens : TokenBlock) (element : Element) : Prop :=
  element.tag = "span" → IsFormatted tokens element

/-- Every span of a fresh root comes from a fragment of its lines. -/
theorem onlyFormatted_root (directive : Directive) (tokens : TokenBlock) :
    (root directive tokens).toNode.Everywhere (OnlyFormatted tokens) := by
  have other {element : Element} (different : element.tag ≠ "span") :
      OnlyFormatted tokens element := fun isSpan => absurd isSpan different
  have here : OnlyFormatted tokens (root directive tokens) := by
    apply other
    unfold root
    split
    · exact (by decide : "div" ≠ "span")
    · exact (by decide : "pre" ≠ "span")
  refine everywhere_toNode.2 ⟨here, ?_⟩
  apply everywhere_below_root
  · exact other (by decide : "div" ≠ "span")
  · exact other (by decide : "code" ≠ "span")
  · intro _ _
    exact other (by decide : "div" ≠ "span")
  · intro line inLines fragment inLine _
    exact ⟨line, inLines, fragment, inLine, rfl⟩

/-- A span names the deepest scope of every part of its fragment, unless there is no part. -/
theorem attribute?_span (palette : Palette) (fragment : Fragment) :
    (span palette fragment).attribute? Element.scopeAttribute =
      if fragment.parts.isEmpty then none
      else some (.text (",".intercalate (fragment.parts.map SubToken.deepestScope))) := by
  have styled : ((Element.mk "span" ∅ []).withText "style"
      (spanStyle palette fragment)).attribute? Element.scopeAttribute = none :=
    (Element.attribute?_withAttribute ..).trans (if_neg (by decide))
  unfold span Fragment.scopeText?
  split
  · exact styled
  · exact (Element.attribute?_withAttribute ..).trans (if_pos rfl)

theorem passes_withPreservedScopes (preserves : Bool) (edits : List (Edit σ))
    (blocks : List TokenBlock) (state : σ) :
    passes (directive.withPreservedScopes preserves) edits blocks state =
      passes directive edits blocks state := by
  induction blocks generalizing state with
  | nil => rfl
  | cons tokens rest inductionHypothesis =>
      have same : root (directive.withPreservedScopes preserves) tokens =
        root directive tokens := rfl
      rw [passes, passes, same, inductionHypothesis]

/-- With their scopes, the roots are what the edits left. -/
theorem format_withPreservedScopes_true (makers : List (EditMaker σ)) (blocks : List TokenBlock)
    (state : σ) :
    let made := makeEdits makers state
    let run := passes directive made.1 blocks made.2
    format (directive.withPreservedScopes true) makers blocks state =
      (run.1.map fun pass => pass.last.1, run.2) := by
  intro made run
  rw [format_eq, passes_withPreservedScopes]
  rfl

/-- Without them, the same roots are stripped. -/
theorem format_withPreservedScopes_false (makers : List (EditMaker σ)) (blocks : List TokenBlock)
    (state : σ) :
    let preserved := format (directive.withPreservedScopes true) makers blocks state
    format (directive.withPreservedScopes false) makers blocks state =
      (preserved.1.map Element.stripScopes, preserved.2) := by
  intro preserved
  rw [format_eq, passes_withPreservedScopes]
  dsimp only [preserved]
  rw [format_withPreservedScopes_true, List.map_map]
  rfl

/-- What all edits of a pass leave as it is, wherever they move it, is there in the end. -/
theorem at?_last {pass : Pass σ} {place : Nat → List Nat}
    (untouched : ∀ step, step < pass.edits.length →
      (pass.stage (step + 1)).1.at? (place (step + 1)) = (pass.stage step).1.at? (place step)) :
    pass.last.1.at? (place pass.edits.length) = pass.start.1.at? (place 0) := by
  have upTo : ∀ step, step ≤ pass.edits.length →
      (pass.stage step).1.at? (place step) = pass.start.1.at? (place 0) := by
    intro step within
    induction step with
    | zero => rfl
    | succ step inductionHypothesis =>
        rw [untouched step within, inductionHypothesis (Nat.le_of_succ_le within)]
  rw [← Pass.stage_of_length_le (Nat.le_refl _), upTo _ (Nat.le_refl _)]

/-- Formatting without the scopes is formatting with them and stripping every root, whatever the
edits do with the roots and with their state. So no scope is left at any depth, and nothing else is
lost; and with the scopes, each span that the edits leave alone names those of its fragment. -/
theorem format_differs_only_in_scopes (directive : Directive) (makers : List (EditMaker σ))
    (blocks : List TokenBlock) (state : σ) :
    let preserved := format (directive.withPreservedScopes true) makers blocks state
    let stripped := format (directive.withPreservedScopes false) makers blocks state
    stripped = (preserved.1.map Element.stripScopes, preserved.2) ∧
    (∀ root ∈ stripped.1, root.toNode.Everywhere fun element =>
      element.attribute? Element.scopeAttribute = none) ∧
    (∀ (index : Nat) (kept root : Element),
      preserved.1[index]? = some kept → stripped.1[index]? = some root →
        ∀ path, Option.Rel (Element.AgreeBut Element.scopeAttribute)
          (kept.at? path) (root.at? path)) ∧
    -- What becomes of the spans that are laid out at first.
    ∀ (index : Nat) (tokens : TokenBlock) (pass : Pass σ) (kept : Element),
      blocks[index]? = some tokens → preserved.1[index]? = some kept →
      (passes directive (makeEdits makers state).1 blocks (makeEdits makers state).2).1[index]? =
        some pass →
      ∀ (place : Nat → List Nat) (made : Element),
        (root directive tokens).at? (place 0) = some made → made.tag = "span" →
        (∀ step < makers.length, (pass.stage (step + 1)).1.at? (place (step + 1)) =
          (pass.stage step).1.at? (place step)) →
        kept.at? (place makers.length) = some made ∧
        ∃ line ∈ tokens.lines, ∃ fragment ∈ line, made = span tokens.palette fragment ∧
          made.attribute? Element.scopeAttribute = if fragment.parts.isEmpty then none
            else some (.text (",".intercalate (fragment.parts.map SubToken.deepestScope))) := by
  intro preserved stripped
  have strips : stripped = (preserved.1.map Element.stripScopes, preserved.2) :=
    format_withPreservedScopes_false makers blocks state
  refine ⟨strips, ?_, ?_, ?_⟩
  · intro root member path element found
    rw [strips] at member
    obtain ⟨kept, _, rfl⟩ := List.mem_map.1 member
    change kept.stripScopes.at? path = some element at found
    rw [Element.stripScopes, Element.at?_eraseEverywhere, Option.map_eq_some_iff] at found
    obtain ⟨before, _, rfl⟩ := found
    rw [Element.attribute?_eraseEverywhere, if_pos rfl]
  · intro index kept root isKept isRoot path
    rw [strips, List.getElem?_map, isKept, Option.map_some, Option.some.injEq] at isRoot
    rw [← isRoot, Element.stripScopes, Element.at?_eraseEverywhere]
    cases kept.at? path with
    | none => exact .none
    | some element => exact .some (Element.agreeBut_eraseEverywhere _ element)
  · intro index tokens pass kept block isKept isPass place made there isSpan untouched
    obtain ⟨_, sameBlock, fresh, passEdits⟩ := passes_getElem? isPass
    obtain rfl := Option.some.inj (block.symm.trans sameBlock)
    have many : pass.edits.length = makers.length := passEdits ▸ length_makeEdits makers state
    have left : pass.last.1 = kept := by
      dsimp only [preserved] at isKept
      rw [format_withPreservedScopes_true, List.getElem?_map, isPass] at isKept
      exact Option.some.inj isKept
    obtain ⟨line, inLines, fragment, inLine, same⟩ :=
      onlyFormatted_root directive tokens (place 0) made there isSpan
    refine ⟨?_, line, inLines, fragment, inLine, same, ?_⟩
    · rw [← left, ← many, at?_last (many ▸ untouched), fresh, there]
    · rw [same, attribute?_span]

/-- Adds an element that has scopes of its own. -/
def scopedMark : EditMaker Unit := fun _ =>
  let mark : Node :=
    .element "b" ((∅ : Attributes).insert Element.scopeAttribute (.text "mark")) []
  (fun root _ => (root.withChild mark, ()), ())

theorem format_differs_only_in_scopes_around_mark :
    let tokens : TokenBlock := ⟨⟨"dark", "#fff", "#000"⟩,
      [[{ content := "fn", parts := [⟨"f", ["source", "keyword"]⟩, ⟨"n", []⟩] }]]⟩
    let directive : Directive := { inline := some 0 }
    let preserved := format (directive.withPreservedScopes true) [scopedMark] [tokens] ()
    let stripped := format (directive.withPreservedScopes false) [scopedMark] [tokens] ()
    ∃ kept root made mark, preserved.1[0]? = some kept ∧ stripped.1[0]? = some root ∧
      kept.at? [0, 0] = some made ∧
      made.attribute? Element.scopeAttribute = some (.text "keyword,") ∧
      root.at? [1] = some mark ∧ mark.attribute? Element.scopeAttribute = none := by
  intro tokens directive preserved stripped
  obtain ⟨_, scopeless, _, spans⟩ :=
    format_differs_only_in_scopes directive [scopedMark] [tokens] ()
  obtain ⟨pass, isPass⟩ : ∃ pass, (passes directive (makeEdits [scopedMark] ()).1 [tokens]
      (makeEdits [scopedMark] ()).2).1[0]? = some pass := ⟨_, rfl⟩
  obtain ⟨made, there⟩ : ∃ made, (root directive tokens).at? [0, 0] = some made := ⟨_, rfl⟩
  obtain ⟨kept, isKept⟩ : ∃ kept, preserved.1[0]? = some kept := ⟨_, rfl⟩
  obtain ⟨root, isRoot⟩ : ∃ root, stripped.1[0]? = some root := ⟨_, rfl⟩
  obtain ⟨mark, isMark⟩ : ∃ mark, root.at? [1] = some mark := by
    cases isRoot
    exact ⟨_, rfl⟩
  have untouched : ∀ step < 1,
      (pass.stage (step + 1)).1.at? [0, 0] = (pass.stage step).1.at? [0, 0] := by
    intro step within
    obtain rfl : step = 0 := by omega
    cases isPass
    rfl
  have isSpan : made.tag = "span" := by
    cases there
    rfl
  obtain ⟨inEnd, _⟩ :=
    spans 0 tokens pass kept rfl isKept isPass (fun _ => [0, 0]) made there isSpan untouched
  refine ⟨kept, root, made, mark, isKept, isRoot, inEnd, ?_, isMark, ?_⟩
  · cases there
    exact attribute?_span tokens.palette _
  · exact scopeless root (List.mem_of_getElem? isRoot) [1] mark isMark

end Listings.Layout

/-
This file shows which events can be divided into parts, and that those of every document can.
-/

import Listings.Proofs.Markdown.CodeBlocks

namespace Listings.Markdown.Event

/-- The events are those of some parts, so blocks of code stand one after the other. -/
def Divided (events : List Event) : Prop :=
  ∃ parts : List Part, events = parts.flatMap Part.events

theorem divided_nil : Divided [] := ⟨[], rfl⟩

theorem Divided.append {first second : List Event} (firstDivided : Divided first)
    (secondDivided : Divided second) : Divided (first ++ second) := by
  obtain ⟨parts, rfl⟩ := firstDivided
  obtain ⟨more, rfl⟩ := secondDivided
  exact ⟨parts ++ more, (List.flatMap_append).symm⟩

theorem divided_singleton {event : Event} (isOther : event.isCodeBound = false) :
    Divided [event] :=
  ⟨[.other event isOther], rfl⟩

theorem Divided.within {region : Region} {events : List Event} (divided : Divided events)
    (isOther : (enter region).isCodeBound = false) : Divided (within region events) := by
  have leaves : (leave region).isCodeBound = false := by
    cases region <;> first | contradiction | rfl
  exact ((divided_singleton isOther).append divided).append (divided_singleton leaves)

/-- Every block of code has an end, and up to there it holds nothing but text. -/
def matched : Bool → List Event → Bool
  | inCode, [] => !inCode
  | false, .enter (.code _) :: rest => matched true rest
  | true, .leave (.code _) :: rest => matched false rest
  | true, .text _ :: rest => matched true rest
  | inCode, event :: rest => !inCode && !event.isCodeBound && matched false rest

theorem matched_other {event : Event} (isOther : event.isCodeBound = false) (rest : List Event) :
    matched false (event :: rest) = matched false rest := by
  cases event with
  | enter region => cases region <;> first | contradiction | rfl
  | leave region => cases region <;> first | contradiction | rfl
  | _ => rfl

theorem matched_texts (texts : List String) (rest : List Event) :
    matched true (texts.map .text ++ rest) = matched true rest := by
  induction texts with
  | nil => rfl
  | cons text more inductionHypothesis => exact inductionHypothesis

theorem matched_events (part : Part) (rest : List Event) :
    matched false (part.events ++ rest) = matched false rest := by
  cases part with
  | code block =>
      rw [Part.events, CodeBlock.events, List.append_assoc]
      exact matched_texts block.texts (.leave (.code block.closing) :: rest)
  | other event isOther => exact matched_other isOther rest

/-- Within a block of code, the texts that were read of it stand before the other events. -/
theorem divided_of_matched (events : List Event) :
    (matched false events = true → Divided events) ∧
      (matched true events = true → ∀ (info : Option String) (texts : List String),
        Divided (.enter (.code info) :: texts.map .text ++ events)) := by
  induction events with
  | nil => exact ⟨fun _ => divided_nil, nofun⟩
  | cons event rest inductionHypothesis =>
      obtain ⟨outside, inside⟩ := inductionHypothesis
      constructor
      · intro both
        cases isOther : event.isCodeBound with
        | false =>
            rw [matched_other isOther] at both
            exact (divided_singleton isOther).append (outside both)
        | true =>
            cases event with
            | enter region =>
                cases region with
                | code info => exact inside both info []
                | _ => contradiction
            | leave region => cases region <;> contradiction
            | _ => contradiction
      · intro both info texts
        cases event with
        | text content =>
            have longer := inside both info (texts ++ [content])
            rw [List.map_append, ← List.cons_append, List.append_assoc] at longer
            exact longer
        | leave region =>
            cases region with
            | code closing =>
                have whole : Divided (CodeBlock.events ⟨info, texts, closing⟩) :=
                  ⟨[.code ⟨info, texts, closing⟩], (List.append_nil _).symm⟩
                have longer := whole.append (outside both)
                rw [CodeBlock.events, List.append_assoc] at longer
                exact longer
            | _ => contradiction
        | enter region => cases region <;> contradiction
        | _ => contradiction

theorem divided_iff_matched {events : List Event} :
    Divided events ↔ matched false events = true := by
  constructor
  · rintro ⟨parts, rfl⟩
    induction parts with
    | nil => rfl
    | cons part rest inductionHypothesis =>
        rw [List.flatMap_cons, matched_events]
        exact inductionHypothesis
  · exact (divided_of_matched events).1

theorem divided_flatMap {α : Type} {events : α → List Event}
    (divided : ∀ item, Divided (events item)) (items : List α) :
    Divided (items.flatMap events) := by
  induction items with
  | nil => exact divided_nil
  | cons item rest inductionHypothesis => exact (divided item).append inductionHypothesis

theorem divided_ofText (content : List Char) : Divided (ofText content) := by
  unfold ofText
  split
  · exact divided_nil
  · exact divided_singleton rfl

mutual

theorem divided_ofInline (inline : Inline) : Divided (ofInline inline) := by
  cases inline with
  | text content => exact divided_ofText content
  | code content => exact divided_singleton rfl
  | markup content => exact divided_singleton rfl
  | softBreak => exact divided_singleton rfl
  | hardBreak => exact divided_singleton rfl
  | emphasis children => exact (divided_ofInlines children).within rfl
  | strong children => exact (divided_ofInlines children).within rfl
  | deleted children => exact (divided_ofInlines children).within rfl
  | link kind target children => exact (divided_ofInlines children).within rfl
  | image target children => exact (divided_ofInlines children).within rfl

theorem divided_ofInlines (inlines : List Inline) : Divided (ofInlines inlines) := by
  cases inlines with
  | nil => exact divided_nil
  | cons first rest => exact (divided_ofInline first).append (divided_ofInlines rest)

end

/-- The text of a block of code makes one event, or none where it is empty. -/
theorem divided_code (info : Option String) (content : List Char) :
    Divided (within (.code info) (ofText content)) := by
  unfold ofText
  split
  · exact ⟨[.code ⟨info, [], info⟩], rfl⟩
  · exact ⟨[.code ⟨info, [String.ofList content], info⟩], rfl⟩

variable (setting : Paragraph.Setting)

theorem divided_ofContent (text : List Char) : Divided (ofContent setting text) :=
  divided_ofInlines _

theorem divided_ofTask (task : Option Bool) : Divided (ofTask task) := by
  cases task with
  | none => exact divided_nil
  | some isDone => exact divided_singleton rfl

theorem divided_ofCell (text : List Char) : Divided (ofCell setting text) :=
  (divided_ofContent setting text).within rfl

theorem divided_ofRow (cells : List (List Char)) :
    Divided (within .tableRow (cells.flatMap (ofCell setting))) :=
  (divided_flatMap (divided_ofCell setting) cells).within rfl

mutual

theorem divided_ofBlock (block : Block) : Divided (ofBlock setting block) := by
  cases block with
  | paragraph done content =>
      exact ((divided_ofTask done).append (divided_ofContent setting content)).within rfl
  | line done content => exact (divided_ofTask done).append (divided_ofContent setting content)
  | heading level content => exact (divided_ofContent setting content).within rfl
  | code info content => exact divided_code _ content
  | markup content =>
      have ofContent : Divided [Event.markup (String.ofList content)] := divided_singleton rfl
      exact ofContent.within rfl
  | rule => exact divided_singleton rfl
  | quote alert blocks => exact (divided_ofBlocks blocks).within rfl
  | list start items => exact (divided_ofBlocks items).within rfl
  | item blocks => exact (divided_ofBlocks blocks).within rfl
  | table alignments head rows =>
      have ofHead : Divided (within .tableHead (head.flatMap (ofCell setting))) :=
        (divided_flatMap (divided_ofCell setting) head).within rfl
      exact (ofHead.append (divided_flatMap (divided_ofRow setting) rows)).within rfl

theorem divided_ofBlocks (blocks : List Block) : Divided (ofBlocks setting blocks) := by
  cases blocks with
  | nil => exact divided_nil
  | cons first rest => exact (divided_ofBlock first).append (divided_ofBlocks rest)

end

theorem divided_ofDocument (extended : Bool) (document : String) :
    Divided (ofDocument extended document) :=
  divided_ofBlocks _ _

end Listings.Markdown.Event

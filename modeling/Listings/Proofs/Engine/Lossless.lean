/-
This file says when an engine keeps the text it cuts, and shows that the engine of keywords does.
-/

import Listings.Engine.Keyword
import Listings.Proofs.Cache.Reachable
import Listings.Proofs.Text.Pieces

namespace Listings

/-- The fragments of each line make up the line of the text that stands there. -/
def Engine.Lossless (engine : Engine) : Prop :=
  ∀ (text language theme : String) (lines : List Line),
    engine.tokenize text language theme = .ok lines →
      lines.map Line.text = Text.lines text.toList

theorem Line.text_append (line more : Line) : Line.text (line ++ more) = line.text ++ more.text :=
  List.flatMap_append

namespace Keyword

theorem text_word (language : String) (text : List Char) :
    Line.text (word language text) = text := by
  unfold word
  dsimp only
  split
  · rename_i isEmpty
    rw [List.isEmpty_iff.1 isEmpty]
    rfl
  · split <;> simp [Line.text, fragment]

theorem text_space_cons (language : String) (line : Line) :
    Line.text (space language :: line) = [' '] ++ line.text := by
  simp [Line.text, space, fragment]

theorem spaced_cons_cons (language : String) (first next : List Char) (more : List (List Char)) :
    spaced language (first :: next :: more) =
      word language first ++ space language :: spaced language (next :: more) := by
  rw [spaced, spaced, List.flatMap_cons, List.cons_append]

theorem text_spaced (language : String) (words : List (List Char)) :
    Line.text (spaced language words) = Text.join [' '] words := by
  induction words with
  | nil => rfl
  | cons first rest inductionHypothesis =>
      cases rest with
      | nil =>
          rw [spaced, List.flatMap_nil, List.append_nil, text_word]
          rfl
      | cons next more =>
          rw [spaced_cons_cons, Line.text_append, text_word, text_space_cons, inductionHypothesis,
            Text.join_cons _ _ (List.cons_ne_nil next more), List.append_assoc]

theorem text_tokenizeLine (language : String) (text : List Char) :
    Line.text (tokenizeLine language text) = text := by
  rw [tokenizeLine, text_spaced, Text.join_pieces]

theorem lossless_engine : engine.Lossless := by
  intro text language theme lines cut
  change (palette theme).bind _ = _ at cut
  cases found : palette theme with
  | error error =>
      rw [found] at cut
      contradiction
  | ok palette =>
      rw [found] at cut
      cases cut
      rw [List.map_map]
      exact (List.map_congr_left fun piece _ => text_tokenizeLine language piece).trans
        (List.map_id _)

theorem factory_makes_lossless : factory.Makes Engine.Lossless := by
  intro attempt configuration engine made
  change create configuration = .ok engine at made
  unfold create at made
  split at made
  · contradiction
  · cases made
    exact lossless_engine

end Keyword

end Listings

/-
This file lists what the library reports while it works.
-/

namespace Listings

inductive Level where
  | debug
  | info
  | warn
deriving DecidableEq, Repr

/-- A value that a notice carries. -/
inductive Field where
  | text (value : String)
  | number (value : Nat)
deriving DecidableEq, Repr

/-- Something worth reporting that is not an error. -/
inductive Notice where
  | unhandledToken (token : String)
  | unhandledSetting (key value : String)
  | malformedRange (part : String)
  | malformedNumber (part : String)
  | unknownLanguage (language : String)
  | configurationChanged
  | buildingEngine
  | engineLoaded (grammars themes : Nat)
  | blockHighlighted (language : String) (roots : Nat)
deriving DecidableEq, Repr

namespace Notice

def level : Notice → Level
  | configurationChanged | engineLoaded .. | blockHighlighted .. => .debug
  | buildingEngine => .info
  | _ => .warn

def message : Notice → String
  | unhandledToken _ | unhandledSetting .. => "Unhandled code block directive"
  | malformedRange _ => "Malformed line range in code block directive"
  | malformedNumber _ => "Malformed line number in code block directive"
  | unknownLanguage _ => "Language definition not found, rendering as plain text"
  | configurationChanged => "Highlighter configuration changed, dropping engine"
  | buildingEngine => "Building highlighting engine"
  | engineLoaded .. => "Loaded syntect engine"
  | blockHighlighted .. => "Highlighted code block"

def fields : Notice → List (String × Field)
  | unhandledToken token => [("token", .text token)]
  | unhandledSetting key value => [("key", .text key), ("value", .text value)]
  | malformedRange part | malformedNumber part => [("part", .text part)]
  | unknownLanguage language => [("language", .text language)]
  | configurationChanged | buildingEngine => []
  | engineLoaded grammars themes => [("syntaxes", .number grammars), ("themes", .number themes)]
  | blockHighlighted language roots => [("language", .text language), ("roots", .number roots)]

end Notice

/-- A value together with what was reported on the way to it, in order. -/
structure Reported (α : Type) where
  value : α
  notices : List Notice := []

namespace Reported

instance : Monad Reported where
  pure value := ⟨value, []⟩
  bind first next :=
    let second := next first.value
    ⟨second.value, first.notices ++ second.notices⟩

theorem bind_pure_value {α : Type} (computation : Reported α) :
    (computation >>= fun value => pure value) = computation := by
  change Reported.mk computation.value (computation.notices ++ []) = computation
  rw [List.append_nil]

theorem bind_bind {α β γ : Type} (computation : Reported α) (first : α → Reported β)
    (second : β → Reported γ) :
    (computation >>= first) >>= second = computation >>= fun value => first value >>= second := by
  let middle := first computation.value
  let last := second middle.value
  have ordered : (computation.notices ++ middle.notices) ++ last.notices =
      computation.notices ++ (middle.notices ++ last.notices) := List.append_assoc _ _ _
  exact congrArg (Reported.mk last.value) ordered

instance : LawfulMonad Reported := by
  refine LawfulMonad.mk' Reported ?_ ?_ ?_
  · intro α computation
    exact bind_pure_value computation
  · intro α β value next
    rfl
  · intro α β γ computation first second
    exact bind_bind computation first second

def report (notice : Notice) : Reported Unit := ⟨(), [notice]⟩

end Reported

end Listings

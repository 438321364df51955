/-
This file lists what can go wrong and how it is worded.
-/

namespace Listings

/-- Why an engine could not be made. -/
inductive EngineError where
  /-- Some engines name the themes that are left to choose from. -/
  | unknownTheme (name : String) (available : Option (List String))
  | themeFolder (path reason : String)
  | other (message : String) (source : Option String)
deriving DecidableEq, Repr

namespace EngineError

def message : EngineError → String
  | unknownTheme name none => "Unknown theme `" ++ name ++ "`"
  | unknownTheme name (some available) =>
      "Unknown theme `" ++ name ++ "` (available: " ++ ", ".intercalate available ++ ")"
  | themeFolder path _ => "Failed to load themes from " ++ path
  | other message _ => message

def source? : EngineError → Option String
  | unknownTheme .. => none
  | themeFolder _ reason => some reason
  | other _ source => source

end EngineError

/-- Why an engine could not cut a text into fragments. -/
inductive TokenizeError where
  | noGrammar
  | unresolvedContext (description : String)
  | other (message : String)
deriving DecidableEq, Repr

def TokenizeError.message : TokenizeError → String
  | noGrammar => "no syntax definition"
  | unresolvedContext description =>
      "Tried to use a ContextReference that has not bee resolved yet: Named(" ++
        description ++ ")"
  | other message => message

/-- Why a block of code could not be highlighted. -/
inductive HighlightError where
  | engine (error : EngineError)
  | unknownTheme (name : String)
  | tokenize (language : String) (error : TokenizeError)
deriving DecidableEq, Repr

namespace HighlightError

def message : HighlightError → String
  | engine error => "Failed to create highlighting engine: " ++ error.message
  | unknownTheme name => "Unknown theme: " ++ name
  | tokenize language error =>
      "Failed to tokenize " ++ language ++ " code block: " ++ error.message

/-- The messages of the causes, nearest first. -/
def causes : HighlightError → List String
  | engine error => error.message :: error.source?.toList
  | _ => []

end HighlightError

/-- Why a document could not be rendered. -/
structure RenderError where
  cause : HighlightError
deriving DecidableEq, Repr

namespace RenderError

def message (error : RenderError) : String :=
  "Code block highlighting failed: " ++ error.cause.message

/-- The message of the error and those of all its causes. -/
def chain (error : RenderError) : List String :=
  error.message :: error.cause.message :: error.cause.causes

end RenderError

end Listings

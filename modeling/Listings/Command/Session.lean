/-
This file carries out tasks and records what they tell the user.
-/

import Listings.Bundle
import Listings.Command.Basic
import Listings.Markdown.Rendering
import Listings.Settings.Load

namespace Listings

/-- Why a task could not be carried out. -/
inductive TaskError where
  | settings (error : SettingsError)
  | file (error : FileError)
  | highlight (error : HighlightError)
  | render (error : RenderError)
deriving DecidableEq, Repr

def TaskError.message : TaskError → String
  | settings error => error.message
  | file error => error.message
  | highlight error => error.message
  | render error => error.message

/-- What a task shows while it is carried out. -/
structure Transcript where
  output : String := ""
  /-- Lines for the user that are no part of the result. -/
  messages : List String := []
  notices : List Notice := []

/-- The steps of a task: a failure keeps what was shown before it. -/
abbrev Session (m : Type → Type) := ExceptT TaskError (StateT Transcript m)

namespace Session

variable {m : Type → Type} [Monad m] {α ε : Type}

def ofExcept (wrap : ε → TaskError) (outcome : Except ε α) : Session m α :=
  ExceptT.mk (pure (outcome.mapError wrap))

def say (message : String) : Session m Unit :=
  modify fun transcript => { transcript with messages := transcript.messages ++ [message] }

def heed (notices : List Notice) : Session m Unit :=
  modify fun transcript => { transcript with notices := transcript.notices ++ notices }

/-- A result on the terminal ends with a newline. -/
def endLine (content : String) : String :=
  if content.toList.getLast? == some '\n' then content else content.push '\n'

def emit (world : Surroundings m) (destination : Destination) (content : String) :
    Session m Unit := do
  match destination with
  | some path => do
      let outcome ← world.write path content
      ofExcept .file outcome
      say ("Wrote " ++ path)
  | none =>
      modify fun transcript => { transcript with output := transcript.output ++ endLine content }

/-- The settings in the source, with GitHub's extensions off unless the task wants them. -/
def loadSettings (world : Surroundings m) (source : SettingsSource) (extended : Bool) :
    Session m Settings := do
  let overrides : Overrides := {
    themes := if source.themes.isEmpty then none else some source.themes
    themeFolder := source.themeFolder
    gfm := if extended then none else some false }
  let outcome ← (Settings.load world source.path (some overrides)).run
  ofExcept .settings outcome

/-- A path that is nothing but a dash stands for the standard input. -/
def isStandardInput (path : List Char) : Bool :=
  (Path.anchor path).isEmpty &&
    (Text.pieces (· == '/') path).filter (fun name => !Path.isEmptyName name) == [['-']]

def readInput (world : Surroundings m) (path : Option String) : Session m String := do
  match path.filter fun path => !isStandardInput path.toList with
  | some path => do
      let entry ← world.look path
      ofExcept .file entry.text
  | none => do
      let content ← world.standardInput
      ofExcept .file (textOf content)

/-- The bundled engine with the themes of the folder that the settings name. -/
def makeFactory (world : Surroundings m) (settings : Settings) : Session m Factory := do
  match settings.themeFolder with
  | some path => do
      let folder ← (ThemeFolder.load world path : m ThemeFolder)
      pure (Bundle.factory [folder])
  | none => pure (Bundle.factory [])

def startCache (settings : Settings) : Cache := { configuration := settings.configuration }

def highlighting (settings : Settings) (action : Highlighting α) : Session m α := do
  let outcome := action.run (startCache settings)
  heed outcome.notices
  ofExcept .highlight outcome.value.1

def directiveOf (text : String) (inline : Option Nat) : Session m Directive := do
  let read := Directive.read text
  heed read.notices
  match inline with
  | some line => pure (read.value.withInline line)
  | none => pure read.value

def describe (palette : Palette) : String :=
  palette.name ++ "\tfg " ++ palette.foreground ++ "\tbg " ++ palette.background ++ "\n"

def perform (world : Surroundings m) (source : SettingsSource) : Task → Session m Unit
  | .render input extended destination => do
      let settings ← loadSettings world source extended
      let document ← readInput world (some input)
      let factory ← makeFactory world settings
      let outcome := Markdown.Rendering.run factory settings.gfm document (startCache settings)
      heed outcome.notices
      let rendering ← ofExcept .render outcome.value.1
      say ("Highlighted " ++ toString rendering.codeBlocks ++ " code block(s)")
      emit world destination rendering.html
  | .code input language directive inline destination => do
      let settings ← loadSettings world source true
      let content ← readInput world input
      let text := String.ofList (Text.dropFinalNewline content.toList)
      let directive ← directiveOf directive inline
      let factory ← makeFactory world settings
      let roots ← highlighting settings
        (Highlighter.highlight factory text language directive []).toHighlighting
      emit world destination (Markup.render roots)
  | .themes => do
      let settings ← loadSettings world source true
      let factory ← makeFactory world settings
      let palettes ← highlighting settings (Highlighter.palettes factory)
      emit world none (String.join (palettes.map describe))
  | .languages => do
      let settings ← loadSettings world source true
      let factory ← makeFactory world settings
      let languages ← highlighting settings (Highlighter.languages factory)
      say (toString languages.length ++ " language names")
      emit world none ("\n".intercalate languages)

end Session

end Listings

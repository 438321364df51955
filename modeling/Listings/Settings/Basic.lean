/-
This file holds the settings of the program and says which of them make no sense.
-/

import Listings.Engine.Basic
import Listings.Files.Entry
import Listings.Text.Pieces

namespace Listings

structure Settings where
  themes : List String := Configuration.defaultThemes
  /-- Where more themes are found. -/
  themeFolder : Option String := none
  /-- Whether the extensions of GitHub are read. -/
  gfm : Bool := true
  /-- The file that the settings came from. -/
  path : Option String := none
deriving DecidableEq, Repr

/-- What can be wrong with a list of themes. -/
inductive SettingsFault where
  | noTheme
  | blankTheme
  | repeatedTheme (name : String)
deriving DecidableEq, Repr

def SettingsFault.message : SettingsFault → String
  | noTheme => "highlight.themes must name at least one theme"
  | blankTheme => "highlight.themes cannot contain empty names"
  | repeatedTheme name => "highlight.themes lists `" ++ name ++ "` more than once"

/-- Why there are no settings. -/
inductive SettingsError where
  | noFile (path : String)
  | unreadable (error : FileError)
  | malformed
  | faulty (fault : SettingsFault)
  | unset (field name : String)
deriving DecidableEq, Repr

def SettingsError.message : SettingsError → String
  | noFile path => "Configuration file not found: " ++ path
  | unreadable error => "I/O error: " ++ error.message
  | malformed => "TOML parse error"
  | faulty fault => "Configuration error: " ++ fault.message
  | unset field name =>
      "Environment variable error in " ++ field ++ ": $\x7b" ++ name ++ "\x7d not set"

namespace Settings

instance : Inhabited Settings := ⟨{}⟩

def configuration (settings : Settings) : Configuration := ⟨settings.themes⟩

def isBlankName (name : String) : Bool := name.toList.all Text.isBlank

/-- The first fault among names that come after others. -/
def faultAfter? (earlier : List String) : List String → Option SettingsFault
  | [] => none
  | name :: rest =>
      if isBlankName name then some .blankTheme
      else if earlier.contains name then some (.repeatedTheme name)
      else faultAfter? (name :: earlier) rest

def fault? (settings : Settings) : Option SettingsFault :=
  if settings.themes.isEmpty then some .noTheme else faultAfter? [] settings.themes

end Settings

end Listings

/-
This file gathers the themes of a folder.
-/

import Listings.Files.Entry
import Listings.Files.Path
import Listings.PropertyList.Reader
import Listings.Text.Case
import Listings.Theme.File

namespace Listings

/-- The themes below a folder by name, or the reason why there are none. -/
structure ThemeFolder where
  path : String
  content : Except String (List (String × Theme))

namespace ThemeFolder

def extension : String := "tmTheme"

/-- The last name of a path. -/
def lastName (path : List Char) : List Char :=
  (((Text.pieces (· == '/') path).reverse.dropWhile Path.isEmptyName).head?).getD []

def isThemePath (path : List Char) : Bool :=
  match Path.extension? (lastName path) with
  | some found => Text.sameIgnoringAsciiCase (String.ofList found) extension
  | none => false

def read? (document : String) : Option Theme :=
  (PropertyList.read? document).bind Theme.ofPropertyList?

/-- The theme in a file, under the name of the file without its extension. -/
def themeOf (path : List Char) (content : ByteArray) : Except String (String × Theme) := do
  let document ← (textOf content).mapError FileError.message
  match read? document with
  | some theme => pure (String.ofList (Path.stem (lastName path)), theme)
  | none => throw (String.ofList path ++ " holds no theme")

variable {m : Type → Type} [Monad m]

/-- No path leads through more folders than this. -/
def depthLimit : Nat := 4096

/-- All themes in what a path leads to, by the order of names in each folder.
Whatever is named like a theme has to be one. -/
def gather (world : Surroundings m) : Nat → List Char → ExceptT String m (List (String × Theme))
  | 0, _ => pure []
  | depth + 1, path => do
      let entry ← world.look (String.ofList path)
      match entry with
      | .missing => throw FileError.notFound.message
      | .blocked => throw FileError.notFolder.message
      | .file content =>
          if isThemePath path then do
            let theme ← ExceptT.mk (pure (themeOf path content))
            pure [theme]
          else pure []
      | .folder names => do
          if isThemePath path then throw FileError.isFolder.message
          let sorted := names.mergeSort fun a b => a ≤ b
          let found ← sorted.mapM fun name => gather world depth (Path.join path name.toList)
          pure found.flatten

def load (world : Surroundings m) (path : String) : m ThemeFolder := do
  let content ← (gather world depthLimit path.toList).run
  pure ⟨path, content⟩

end ThemeFolder

end Listings

/-
This file joins paths and finds the folders above them, without ever normalizing them.
-/

import Listings.Text.Pieces

namespace Listings.Path

open Text

def isAbsolute (path : List Char) : Bool := path.head? == some '/'

/-- An absolute path stands for itself; an empty one adds a final slash. -/
def join (folder path : List Char) : List Char :=
  if isAbsolute path then path
  else if folder.isEmpty || folder.getLast? == some '/' then folder ++ path
  else folder ++ '/' :: path

/-- The slash of an absolute path, or the dot that a path starts with. -/
def anchor (path : List Char) : List Char :=
  match path with
  | '/' :: _ => ['/']
  | ['.'] | '.' :: '/' :: _ => ['.']
  | _ => []

/-- Between slashes, nothing and a lone dot name nothing. -/
def isEmptyName (name : List Char) : Bool := name.isEmpty || name == ['.']

/-- The path without its last name, unless it has none. -/
def parent? (path : List Char) : Option (List Char) :=
  let start := anchor path
  let names := (pieces (· == '/') (path.drop start.length)).reverse.dropWhile isEmptyName
  match names with
  | _ :: rest => some (start ++ Text.join ['/'] (rest.dropWhile isEmptyName).reverse)
  | [] => if start == ['.'] then some [] else none

/-- At most `steps` paths, each the parent of the one before it. -/
def chain : Nat → List Char → List (List Char)
  | 0, _ => []
  | steps + 1, path =>
      path :: match parent? path with
        | some folder => chain steps folder
        | none => []

/-- The path itself and all folders above it; each is shorter than the one before. -/
def ancestors (path : List Char) : List (List Char) :=
  chain (path.length + 1) path

/-- The part of a name after its last dot, unless the dot comes first. -/
def extension? (name : List Char) : Option (List Char) :=
  match (pieces (· == '.') name).reverse with
  | last :: before :: more => if before.isEmpty && more.isEmpty then none else some last
  | _ => none

/-- The name without its extension. -/
def stem (name : List Char) : List Char :=
  match extension? name with
  | some last => name.take (name.length - last.length - 1)
  | none => name

end Listings.Path

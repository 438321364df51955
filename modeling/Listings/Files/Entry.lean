/-
This file says what a path can lead to and how a text is read from there.
-/

namespace Listings

/-- What stands at a path. -/
inductive FileEntry where
  | missing
  /-- The path goes on behind something that is not a folder. -/
  | blocked
  | folder (names : List String)
  | file (content : ByteArray)

/-- Why a file could not be read or written. -/
inductive FileError where
  | notFound
  | notFolder
  | isFolder
  | invalidText
deriving DecidableEq, Repr

def FileError.message : FileError → String
  | notFound => "No such file or directory (os error 2)"
  | notFolder => "Not a directory (os error 20)"
  | isFolder => "Is a directory (os error 21)"
  | invalidText => "stream did not contain valid UTF-8"

def textOf (content : ByteArray) : Except FileError String :=
  match String.fromUTF8? content with
  | some text => .ok text
  | none => .error .invalidText

theorem textOf_toUTF8 (content : String) : textOf content.toUTF8 = .ok content := by
  have decoded : String.fromUTF8? content.toUTF8 = some content := dif_pos content.isValidUTF8
  rw [textOf, decoded]

namespace FileEntry

def isThere : FileEntry → Bool
  | missing | blocked => false
  | folder _ | file _ => true

def isFile : FileEntry → Bool
  | file _ => true
  | _ => false

def text : FileEntry → Except FileError String
  | missing => .error .notFound
  | blocked => .error .notFolder
  | folder _ => .error .isFolder
  | file content => textOf content

end FileEntry

/-- What the library asks of the world around it. -/
structure Surroundings (m : Type → Type) where
  getVariable : String → m (Option String)
  currentFolder : m String
  look : String → m FileEntry
  standardInput : m ByteArray
  write : String → String → m (Except FileError Unit)

end Listings

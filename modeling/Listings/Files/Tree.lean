/-
This file holds a tree of files in memory and follows paths in it.
-/

import Listings.Files.Entry
import Listings.Files.Path

namespace Listings

inductive FileTree where
  | file (content : ByteArray)
  | folder (children : List (String × FileTree))
deriving Inhabited

namespace FileTree

open Text

def entry : FileTree → FileEntry
  | file content => .file content
  | folder children => .folder (children.map Prod.fst)

/-- Follows names from the tree on top; below it lie the folders that contain it. -/
def walk : FileTree → List FileTree → List (List Char) → FileEntry
  | here, _, [] => here.entry
  | file _, _, _ :: _ => .blocked
  | folder children, above, name :: rest =>
      if Path.isEmptyName name then walk (folder children) above rest
      else if name == ['.', '.'] then
        match above with
        | [] => walk (folder children) [] rest
        | parent :: more => walk parent more rest
      else
        match children.lookup (String.ofList name) with
        | some child => walk child (folder children :: above) rest
        | none => .missing

/-- What an absolute path leads to; a null character leads nowhere. -/
def look (tree : FileTree) (path : List Char) : FileEntry :=
  if path.contains '\x00' then .missing else walk tree [] (pieces (· == '/') path)

/-- The outcome of a write where the names lead, with the tree that it leaves. -/
def place (content : ByteArray) : List (List Char) → FileTree → Except FileError FileTree
  | [], folder _ => .error .isFolder
  | [], file _ => .ok (file content)
  | _ :: _, file _ => .error .notFolder
  | name :: rest, folder children =>
      let key := String.ofList name
      match children.lookup key with
      | some child => do
          let changed ← place content rest child
          pure (folder (children.map fun entry => if entry.1 == key then (key, changed) else entry))
      | none =>
          match rest with
          | [] => .ok (folder (children ++ [(key, file content)]))
          | _ => .error .notFound

/-- The names that a path leads through, with `..` carried out. -/
def names (path : List Char) : List (List Char) :=
  ((pieces (· == '/') path).foldl (fun found name =>
    if Path.isEmptyName name then found
    else if name == ['.', '.'] then found.drop 1
    else name :: found) []).reverse

/-- Writes a file into a folder that is there. -/
def write (tree : FileTree) (path : List Char) (content : ByteArray) :
    Except FileError FileTree :=
  match look tree path with
  | .folder _ => .error .isFolder
  | .file _ => place content (names path) tree
  | .blocked => .error .notFolder
  | .missing =>
      if path.getLast? == some '/' then .error .isFolder
      else
        match look tree ((Path.parent? path).getD []) with
        | .folder _ => place content (names path) tree
        | .blocked | .file _ => .error .notFolder
        | .missing => .error .notFound

mutual

/-- Every file with its path below the tree. -/
def files (path : String) : FileTree → List (String × ByteArray)
  | file content => [(path, content)]
  | folder children => filesOf path children

def filesOf (path : String) : List (String × FileTree) → List (String × ByteArray)
  | [] => []
  | (name, child) :: rest =>
      files (if path.isEmpty then name else path ++ "/" ++ name) child ++ filesOf path rest

end

/-- Adds a folder and those above it. -/
def addFolder : List (List Char) → FileTree → FileTree
  | [], file _ => folder []
  | [], folder children => folder children
  | name :: rest, tree =>
      let key := String.ofList name
      let children := match tree with
        | folder children => children
        | file _ => []
      match children.lookup key with
      | some child =>
          folder (children.map fun entry =>
            if entry.1 == key then (key, addFolder rest child) else entry)
      | none => folder (children ++ [(key, addFolder rest (folder []))])

/-- Adds a file and the folders above it. -/
def addFile (path : List Char) (content : ByteArray) (tree : FileTree) : FileTree :=
  let parts := names path
  let ready := addFolder parts.dropLast tree
  (place content parts ready).toOption.getD ready

/-- What a world of memory holds besides its files. -/
structure Memory where
  tree : FileTree
  currentFolder : String
  environment : List (String × String) := []
  input : ByteArray := ByteArray.empty

namespace Memory

def absolute (memory : Memory) (path : String) : List Char :=
  Path.join memory.currentFolder.toList path.toList

def look (memory : Memory) (path : String) : FileEntry :=
  if path.isEmpty then .missing else memory.tree.look (memory.absolute path)

def write (memory : Memory) (path content : String) : Except FileError Unit × Memory :=
  if path.isEmpty then (.error .notFound, memory)
  else
    match memory.tree.write (memory.absolute path) content.toUTF8 with
    | .ok tree => (.ok (), { memory with tree := tree })
    | .error error => (.error error, memory)

end Memory

/-- The surroundings of a program that runs in memory. -/
def surroundings : Surroundings (StateM Memory) where
  getVariable := fun name => do
    let memory ← get
    pure (memory.environment.lookup name)
  currentFolder := do
    let memory ← get
    pure memory.currentFolder
  look := fun path => do
    let memory ← get
    pure (memory.look path)
  standardInput := do
    let memory ← get
    pure memory.input
  write := fun path content => fun memory => memory.write path content

end FileTree

end Listings

/-
This file runs the program on the files and the terminal of a computer.
-/

import Listings.Command.Outcome

namespace Listings.Terminal

def look (path : String) : IO FileEntry := do
  let place := (← IO.currentDir) / path
  try
    let metadata ← place.metadata
    match metadata.type with
    | .dir => do
        let entries ← place.readDir
        pure (.folder (entries.toList.map fun entry => entry.fileName))
    | _ => do
        let content ← IO.FS.readBinFile place
        pure (.file content)
  catch error =>
    match error with
    | .noFileOrDirectory .. => pure .missing
    | _ => pure .blocked

/-- Why a file at the path could not be written. -/
def writeError (path : String) (error : IO.Error) : IO FileError := do
  match error with
  | .noFileOrDirectory .. => pure .notFound
  | _ => do
      let entry ← look path
      match entry with
      | .folder _ | .missing => pure .isFolder
      | .file _ | .blocked => pure .notFolder

def write (path content : String) : IO (Except FileError Unit) := do
  let place := (← IO.currentDir) / path
  try
    IO.FS.writeFile place content
    pure (.ok ())
  catch error => do
    let reason ← writeError path error
    pure (.error reason)

/-- Reads a stream to its end. -/
partial def readAll (stream : IO.FS.Stream) (content : ByteArray) : IO ByteArray := do
  let block ← stream.read 65536
  if block.isEmpty then pure content else readAll stream (content ++ block)

def surroundings : Surroundings IO where
  getVariable := fun name => IO.getEnv name
  currentFolder := do
    let folder ← IO.currentDir
    pure folder.toString
  look := look
  standardInput := do
    let stream ← IO.getStdin
    readAll stream ByteArray.empty
  write := write

def describeField (field : String × Field) : String :=
  match field.2 with
  | .text value => " " ++ field.1 ++ "=" ++ value
  | .number value => " " ++ field.1 ++ "=" ++ toString value

def describe (notice : Notice) : String :=
  notice.message ++ String.join (notice.fields.map describeField)

end Listings.Terminal

/-- Runs the program once and ends with its code. -/
def main (arguments : List String) : IO UInt32 := do
  let outcome ← Listings.Outcome.ofArguments Listings.Terminal.surroundings arguments
  for notice in outcome.notices do
    IO.eprintln (Listings.Terminal.describe notice)
  for message in outcome.messages do
    IO.eprintln message
  let output ← IO.getStdout
  output.putStr outcome.output
  output.flush
  pure outcome.ending.code

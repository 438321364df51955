/-
This file reads TOML documents.
-/

import Listings.Text.Reading
import Listings.Toml.Scalar

namespace Listings.Toml

open Text

open Reading

def isSpace (c : Char) : Bool := c == ' ' || c == '\t'

/-- Control characters stand nowhere as they are, but for the tab. -/
def isControl (c : Char) : Bool := (c.toNat < 0x20 && c != '\t') || c.toNat == 0x7F

def spaces : Reading Unit := do
  let _ ← takeWhile isSpace

def comment : Reading Unit := do
  if (← peek) == some '#' then
    let text ← takeWhile (· != '\n')
    let body := (dropEnd? ['\r'] text).getD text
    if body.any isControl then fail

/-- Goes past the end of a line, and says if there was one. -/
def lineEnd : Reading Bool := do
  if ← accept ['\n'] then pure true
  else accept ['\r', '\n']

/-- Goes past blanks, comments and ends of lines. -/
def gap : Nat → Reading Unit
  | 0 => pure ()
  | fuel + 1 => do
      spaces
      commentBeforeEnd
      if ← lineEnd then gap fuel
where
  commentBeforeEnd : Reading Unit := do
    if (← peek) == some '#' then
      let text ← takeWhile (fun c => c != '\n' && c != '\r')
      if text.any isControl then fail

def gaps : Reading Unit := do
  gap ((← rest).length + 1)

/-- The character for a code that is written with some digits. -/
def codePoint (digits : Nat) : Reading Char := do
  let text ← rest
  let code := text.take digits
  if code.length == digits && code.all isHexDigit then
    set (text.drop digits)
    let value := hexNumber code
    if value < 0xD800 || (0xE000 ≤ value && value < 0x110000) then pure (Char.ofNat value)
    else fail
  else fail

/-- What stands for the character after a backslash. -/
def escaped : Char → Reading Char
  | 'b' => pure '\x08'
  | 't' => pure '\t'
  | 'n' => pure '\n'
  | 'f' => pure '\x0c'
  | 'r' => pure '\r'
  | 'e' => pure '\x1b'
  | '"' => pure '"'
  | '\\' => pure '\\'
  | 'x' => codePoint 2
  | 'u' => codePoint 4
  | 'U' => codePoint 8
  | _ => fail

/-- The rest of a text in double quotes. -/
def basicText : Nat → Reading (List Char)
  | 0 => fail
  | fuel + 1 => do
      let c ← next
      if c == '"' then pure []
      else if c == '\\' then
        let meant ← escaped (← next)
        pure (meant :: (← basicText fuel))
      else if isControl c then fail
      else pure (c :: (← basicText fuel))

def literalText : Reading (List Char) := do
  let text ← takeWhile fun c => c != '\'' && !isControl c
  expect ['\'']
  pure text

/-- Goes past the rest of a line that ends with a backslash, and all blanks after it. -/
def lineContinuation : Reading Unit := do
  spaces
  if ← lineEnd then
    let _ ← takeWhile fun c => isSpace c || c == '\n' || c == '\r'
  else fail

/-- The end of a text in three quotes; two quotes more may stand before them. -/
def tripleEnd? (quote : Char) (text : List Char) : Option (List Char × List Char) :=
  let run := text.takeWhile (· == quote)
  if run.length ≥ 3 then
    let kept := min (run.length - 3) 2
    some (List.replicate kept quote, text.drop (kept + 3))
  else none

def longBasicText : Nat → Reading (List Char)
  | 0 => fail
  | fuel + 1 => do
      match tripleEnd? '"' (← rest) with
      | some (kept, after) => do
          set after
          pure kept
      | none => do
          let c ← next
          if c == '\\' then
            match ← peek with
            | some d =>
                if isSpace d || d == '\n' || d == '\r' then do
                  lineContinuation
                  longBasicText fuel
                else do
                  let meant ← escaped (← next)
                  pure (meant :: (← longBasicText fuel))
            | none => fail
          else if c == '\n' then pure (c :: (← longBasicText fuel))
          else if c == '\r' then do
            expect ['\n']
            pure ('\n' :: (← longBasicText fuel))
          else if isControl c then fail
          else pure (c :: (← longBasicText fuel))

def longLiteralText : Nat → Reading (List Char)
  | 0 => fail
  | fuel + 1 => do
      match tripleEnd? '\'' (← rest) with
      | some (kept, after) => do
          set after
          pure kept
      | none => do
          let c ← next
          if c == '\n' then pure (c :: (← longLiteralText fuel))
          else if c == '\r' then do
            expect ['\n']
            pure ('\n' :: (← longLiteralText fuel))
          else if isControl c then fail
          else pure (c :: (← longLiteralText fuel))

/-- The text that starts with a quote here. -/
def quotedText : Reading (List Char) := do
  let fuel := (← rest).length + 1
  if ← accept "\"\"\"".toList then do
    let _ ← lineEnd
    longBasicText fuel
  else if ← accept "'''".toList then do
    let _ ← lineEnd
    longLiteralText fuel
  else if ← accept ['"'] then basicText fuel
  else if ← accept ['\''] then literalText
  else fail

def isBareKeyChar (c : Char) : Bool :=
  isDigit c || ('a' ≤ c && c ≤ 'z') || ('A' ≤ c && c ≤ 'Z') || c == '-' || c == '_'

def simpleKey : Reading String := do
  let fuel := (← rest).length + 1
  if ← accept ['"'] then
    pure (String.ofList (← basicText fuel))
  else if ← accept ['\''] then
    pure (String.ofList (← literalText))
  else do
    let key ← takeWhile isBareKeyChar
    if key.isEmpty then fail else pure (String.ofList key)

/-- A key, or several with dots between them. -/
def keyPath : Nat → Reading (List String)
  | 0 => fail
  | fuel + 1 => do
      spaces
      let key ← simpleKey
      spaces
      if ← accept ['.'] then pure (key :: (← keyPath fuel))
      else pure [key]

def key : Reading (List String) := do
  keyPath ((← rest).length + 1)

def isScalarChar (c : Char) : Bool :=
  isBareKeyChar c || c == '+' || c == '.' || c == ':'

/-- A space may part a date from the time that follows it. -/
def scalar : Reading Value := do
  let first ← takeWhile isScalarChar
  match ← rest with
  | ' ' :: d :: _ =>
      if isDate first && isDigit d then do
        let _ ← next
        let time ← takeWhile isScalarChar
        fromText (first ++ ' ' :: time)
      else fromText first
  | _ => fromText first
where
  fromText (text : List Char) : Reading Value :=
    match scalar? text with
    | some value => pure value
    | none => fail

mutual

def value : Nat → Reading Value
  | 0 => fail
  | fuel + 1 => do
      match ← peek with
      | some '"' | some '\'' => pure (.text (String.ofList (← quotedText)))
      | some '[' => do
          let _ ← next
          pure (.array (← items fuel))
      | some '\x7b' => do
          let _ ← next
          pure (.table .braced (← fields fuel []))
      | _ => scalar

/-- The rest of an array, from before an item or its end. -/
def items : Nat → Reading (List Value)
  | 0 => fail
  | fuel + 1 => do
      gaps
      if ← accept [']'] then pure []
      else do
        let first ← value fuel
        gaps
        if ← accept [','] then pure (first :: (← items fuel))
        else do
          expect [']']
          pure [first]

/-- The rest of a table in braces, from before a key or its end. -/
def fields : Nat → Entries → Reading Entries
  | 0, _ => fail
  | fuel + 1, entries => do
      gaps
      if ← accept ['\x7d'] then pure entries
      else do
        let path ← key
        expect ['=']
        gaps
        let content ← value fuel
        match entries.assign content path with
        | none => fail
        | some more => do
            gaps
            if ← accept [','] then fields fuel more
            else do
              expect ['\x7d']
              pure more

end

/-- A header or an assignment. -/
def statement : Reading Statement := do
  if ← accept ['[', '['] then do
    let path ← key
    expect [']', ']']
    pure (.openNext path)
  else if ← accept ['['] then do
    let path ← key
    expect [']']
    pure (.openTable path)
  else do
    let path ← key
    expect ['=']
    spaces
    let content ← value ((← rest).length + 1)
    pure (.assign path content)

def statements : Nat → Reading (List Statement)
  | 0 => fail
  | fuel + 1 => do
      spaces
      let found ← match ← peek with
        | none | some '#' | some '\n' | some '\r' => pure []
        | some _ => do pure [← statement]
      spaces
      comment
      if ← lineEnd then pure (found ++ (← statements fuel))
      else
        match ← rest with
        | [] => pure found
        | _ :: _ => fail

/-- The root table of a document, which may begin with a byte order mark. -/
def read? (document : String) : Option Entries := do
  let text := match document.toList with
    | '\ufeff' :: rest => rest
    | rest => rest
  let (found, _) ← (statements (text.length + 1)).run text
  Entries.ofStatements? found

end Listings.Toml

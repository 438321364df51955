/-
This file reads addresses between angle brackets.
-/

import Listings.Markdown.Entity

namespace Listings.Markdown.Autolink

open Text

def isSchemeChar (c : Char) : Bool := isAsciiAlphanumeric c || c == '.' || c == '-' || c == '+'

/-- A scheme has at least two and at most this many characters. -/
def schemeLimit : Nat := 32

def isAddressChar (c : Char) : Bool := ' ' < c && c != '<' && c != '>'

/-- The address up to a `>`, and what follows it. -/
def closed? (address text : List Char) : Option (List Char × List Char) :=
  match text.drop address.length with
  | '>' :: rest => some (address, rest)
  | _ => none

/-- An address with a scheme, whose `<` was read, and what follows it. -/
def uri? (text : List Char) : Option (List Char × List Char) :=
  let scheme := text.takeWhile isSchemeChar
  if scheme.head?.any isAsciiLetter && 2 ≤ scheme.length && scheme.length ≤ schemeLimit then
    match text.drop scheme.length with
    | ':' :: rest => closed? (scheme ++ ':' :: rest.takeWhile isAddressChar) text
    | _ => none
  else none

def isMailboxChar (c : Char) : Bool :=
  isAsciiAlphanumeric c || ".!#$%&'*+/=?^_\x60\x7b|\x7d~-".toList.contains c

/-- Part of the name of a host; hyphens stand only within it. -/
def isHostLabel (label : List Char) : Bool :=
  !label.isEmpty && label.length ≤ 63 && label.all (fun c => isAsciiAlphanumeric c || c == '-') &&
    label.head? != some '-' && label.getLast? != some '-'

def isHostChar (c : Char) : Bool := isAsciiAlphanumeric c || c == '-' || c == '.'

/-- An address of electronic mail, whose `<` was read, and what follows it. -/
def email? (text : List Char) : Option (List Char × List Char) :=
  let mailbox := text.takeWhile isMailboxChar
  match text.drop mailbox.length with
  | '@' :: rest =>
      let host := rest.takeWhile isHostChar
      if !mailbox.isEmpty && (pieces (· == '.') host).all isHostLabel then
        closed? (mailbox ++ '@' :: host) text
      else none
  | _ => none

end Listings.Markdown.Autolink

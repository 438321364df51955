/-
This file reads and writes line indices.
-/

namespace Listings.Text

def isDigit (c : Char) : Bool := '0' ≤ c && c ≤ '9'

def digitValue (c : Char) : Nat := c.toNat - '0'.toNat

def decimalValue (digits : List Char) : Nat :=
  digits.foldl (fun value c => 10 * value + digitValue c) 0

/-- One `+` may stand before the digits, and leading zeros count for nothing. -/
def readIndex? (text : List Char) : Option UInt64 :=
  let digits := match text with
    | '+' :: rest => rest
    | rest => rest
  if !digits.isEmpty && digits.all isDigit && decimalValue digits < UInt64.size then
    some (UInt64.ofNat (decimalValue digits))
  else none

def hexDigits : List Char := "0123456789abcdef".toList

def hexDigit (value : Nat) : Char := hexDigits.getD value '0'

/-- The value of a hexadecimal digit in either case. -/
def hexValue? (c : Char) : Option Nat :=
  if isDigit c then some (digitValue c)
  else if 'a' ≤ c && c ≤ 'f' then some (c.toNat - 'a'.toNat + 10)
  else if 'A' ≤ c && c ≤ 'F' then some (c.toNat - 'A'.toNat + 10)
  else none

/-- A byte as two lower-case digits. -/
def hexByte (value : Nat) : List Char := [hexDigit (value / 16 % 16), hexDigit (value % 16)]

def hexNumber (digits : List Char) : Nat :=
  digits.foldl (fun value c => 16 * value + (hexValue? c).getD 0) 0

end Listings.Text

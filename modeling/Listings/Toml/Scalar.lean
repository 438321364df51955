/-
This file reads numbers, truth values and points in time.
-/

import Listings.Text.Number
import Listings.Text.Pieces
import Listings.Toml.Value

namespace Listings.Toml

open Text

/-- Digits, with single underscores between them. -/
def isDigitRun (accepts : Char → Bool) (text : List Char) : Bool :=
  (pieces (· == '_') text).all fun piece => !piece.isEmpty && piece.all accepts

def withoutUnderscores (text : List Char) : List Char := text.filter (· != '_')

def signOf (text : List Char) : Bool × List Char :=
  match text with
  | '-' :: rest => (true, rest)
  | '+' :: rest => (false, rest)
  | rest => (false, rest)

/-- Only zero itself starts with zero. -/
def hasPlainStart (digits : List Char) : Bool :=
  match digits with
  | '0' :: _ :: _ => false
  | _ => true

def isHexDigit (c : Char) : Bool := (hexValue? c).isSome

def valueIn (base : Nat) (digits : List Char) : Nat :=
  digits.foldl (fun value c => base * value + (hexValue? c).getD 0) 0

/-- Two to the power of 127. -/
def signBit : Int := 170141183460469231731687303715884105728

/-- Whole numbers have at most 128 bits. -/
def inBounds (number : Int) : Bool := -signBit ≤ number && number < 2 * signBit

def radixInteger? (text : List Char) : Option Int :=
  let read (base : Nat) (accepts : Char → Bool) (digits : List Char) : Option Int :=
    if isDigitRun accepts digits then
      some (Int.ofNat (valueIn base (withoutUnderscores digits)))
    else none
  match text with
  | '0' :: 'x' :: digits => read 16 isHexDigit digits
  | '0' :: 'o' :: digits => read 8 (fun c => '0' ≤ c && c ≤ '7') digits
  | '0' :: 'b' :: digits => read 2 (fun c => c == '0' || c == '1') digits
  | _ => none

def decimalInteger? (text : List Char) : Option Int :=
  let (negative, digits) := signOf text
  if isDigitRun isDigit digits && hasPlainStart digits then
    let magnitude := Int.ofNat (decimalValue (withoutUnderscores digits))
    some (if negative then -magnitude else magnitude)
  else none

def integer? (text : List Char) : Option Int :=
  ((decimalInteger? text).or (radixInteger? text)).filter inBounds

def isExponent (text : List Char) : Bool := isDigitRun isDigit (signOf text).2

/-- A fraction, an exponent or both follow the whole part. -/
def isFloat (text : List Char) : Bool :=
  let digits := (signOf text).2
  digits == "inf".toList || digits == "nan".toList ||
    match cutAt? (fun c => c == 'e' || c == 'E') digits with
    | some (mantissa, exponent) => isExponent exponent && isMantissa mantissa
    | none => digits.contains '.' && isMantissa digits
where
  isMantissa (text : List Char) : Bool :=
    match cutAt? (· == '.') text with
    | some (whole, fraction) =>
        isDigitRun isDigit whole && hasPlainStart whole && isDigitRun isDigit fraction
    | none => isDigitRun isDigit text && hasPlainStart text

def isNumberOf (length : Nat) (low high : Nat) (text : List Char) : Bool :=
  text.length == length && text.all isDigit && low ≤ decimalValue text && decimalValue text ≤ high

def isLeapYear (year : Nat) : Bool :=
  year % 4 == 0 && (year % 100 != 0 || year % 400 == 0)

def daysIn (year month : Nat) : Nat :=
  if month == 2 then (if isLeapYear year then 29 else 28)
  else if month == 4 || month == 6 || month == 9 || month == 11 then 30
  else 31

def isDate (text : List Char) : Bool :=
  match pieces (· == '-') text with
  | [year, month, day] =>
      isNumberOf 4 0 9999 year && isNumberOf 2 1 12 month &&
        isNumberOf 2 1 (daysIn (decimalValue year) (decimalValue month)) day
  | _ => false

def isSecond (text : List Char) : Bool :=
  match cutAt? (· == '.') text with
  | some (whole, fraction) =>
      isNumberOf 2 0 60 whole && !fraction.isEmpty && fraction.all isDigit
  | none => isNumberOf 2 0 60 text

/-- Seconds may be left out. -/
def isTime (text : List Char) : Bool :=
  match pieces (· == ':') text with
  | [hour, minute] => isNumberOf 2 0 23 hour && isNumberOf 2 0 59 minute
  | [hour, minute, second] =>
      isNumberOf 2 0 23 hour && isNumberOf 2 0 59 minute && isSecond second
  | _ => false

def isShortTime (text : List Char) : Bool :=
  match pieces (· == ':') text with
  | [hour, minute] => isNumberOf 2 0 23 hour && isNumberOf 2 0 59 minute
  | _ => false

/-- A time of day, with its distance from universal time or without. -/
def isZonedTime (text : List Char) : Bool :=
  isTime text ||
    match text.getLast? with
    | some 'Z' | some 'z' => isTime text.dropLast
    | _ =>
        let clock := text.takeWhile fun c => c != '+' && c != '-'
        let zone := (text.drop clock.length).drop 1
        clock.length < text.length && isTime clock && isShortTime zone

def isMoment (text : List Char) : Bool :=
  isDate text || isTime text ||
    (isDate (text.take 10) &&
      match text.drop 10 with
      | c :: rest => (c == 'T' || c == 't' || c == ' ') && isZonedTime rest
      | [] => false)

def scalar? (text : List Char) : Option Value :=
  if text == "true".toList then some (.boolean true)
  else if text == "false".toList then some (.boolean false)
  else
    match integer? text with
    | some number => some (.integer number)
    | none =>
        if isFloat text then some (.float (String.ofList text))
        else if isMoment text then some (.moment (String.ofList text))
        else none

end Listings.Toml

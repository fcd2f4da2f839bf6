/-
TOML values that are written without brackets and quotes: truth values, whole
numbers, floats, dates and times.
-/

import ChangeScript.Toml.Value

set_option autoImplicit false

namespace ChangeScript

namespace Toml

open Text

def ungroup (isDigit : Char → Bool) : Text → Option Text
  | [] => none
  | [c] => if isDigit c then some [c] else none
  | c :: '_' :: rest => if isDigit c then (ungroup isDigit rest).map (c :: ·) else none
  | c :: d :: rest => if isDigit c then (ungroup isDigit (d :: rest)).map (c :: ·) else none

def digitValue (c : Char) : Nat :=
  if c.isDigit then c.toNat - '0'.toNat
  else if 'a' ≤ c ∧ c ≤ 'f' then c.toNat - 'a'.toNat + 10
  else if 'A' ≤ c ∧ c ≤ 'F' then c.toNat - 'A'.toNat + 10
  else 16

def isDigitOf (base : Nat) (c : Char) : Bool := digitValue c < base

def digitsValue (base : Nat) (digits : Text) : Nat :=
  digits.foldl (fun number digit => number * base + digitValue digit) 0

def decimalDigits? (written : Text) : Option Text :=
  match ungroup (isDigitOf 10) written with
  | some ('0' :: _ :: _) => none
  | other => other

def splitSign : Text → Bool × Text
  | '-' :: rest => (true, rest)
  | '+' :: rest => (false, rest)
  | text => (false, text)

def bounded? (base most : Nat) (digits : Option Text) : Option Nat :=
  (digits.map (digitsValue base)).filter fun number => number ≤ most

def greatestInteger : Nat := 0x7FFFFFFFFFFFFFFF

def integer? : Text → Option Int
  | '0' :: 'x' :: rest => (bounded? 16 greatestInteger (ungroup (isDigitOf 16) rest)).map Int.ofNat
  | '0' :: 'o' :: rest => (bounded? 8 greatestInteger (ungroup (isDigitOf 8) rest)).map Int.ofNat
  | '0' :: 'b' :: rest => (bounded? 2 greatestInteger (ungroup (isDigitOf 2) rest)).map Int.ofNat
  | written =>
      let (negative, rest) := splitSign written
      if negative then
        (bounded? 10 (greatestInteger + 1) (decimalDigits? rest)).map fun number => -Int.ofNat number
      else (bounded? 10 greatestInteger (decimalDigits? rest)).map Int.ofNat

/-- Whether a positive decimal is too great to be rounded to a 64-bit float. -/
def overflows (digits : Text) (exponent : Int) : Bool :=
  let number := digitsValue 10 digits
  let size := Int.ofNat (ofNat number).length + exponent
  let bound := Nat.pow 2 1024 - Nat.pow 2 970
  if number = 0 ∨ size < 300 then false
  else if 320 < size then true
  else bound * Nat.pow 10 (-exponent).toNat ≤ number * Nat.pow 10 exponent.toNat

def isFloat (written : Text) : Bool :=
  let (negative, unsigned) := splitSign written
  let isExponent := fun c : Char => c = 'e' || c = 'E'
  let mantissa := unsigned.takeWhile fun c => !isExponent c
  let exponent := unsigned.dropWhile fun c => !isExponent c
  let whole := mantissa.takeWhile fun c => c ≠ '.'
  let fraction := mantissa.dropWhile fun c => c ≠ '.'
  let (negativeExponent, exponentDigits) := splitSign (exponent.drop 1)
  let wholeDigits := decimalDigits? whole
  let fractionDigits := if fraction = [] then some [] else ungroup (isDigitOf 10) (fraction.drop 1)
  let exponentNumber :=
    if exponent = [] then some 0
    else (ungroup (isDigitOf 10) exponentDigits).map (digitsValue 10)
  match wholeDigits, fractionDigits, exponentNumber with
  | some wholePart, some fractionPart, some size =>
      let scale := (if negativeExponent then -Int.ofNat size else Int.ofNat size) -
        Int.ofNat fractionPart.length
      (fraction ≠ [] || exponent ≠ []) &&
        (negative || !overflows (wholePart ++ fractionPart) scale)
  | _, _, _ => false

def isSpecialFloat (written : Text) : Bool :=
  let unsigned := (splitSign written).2
  unsigned = "inf".toList || unsigned = "nan".toList

def fixedNumber (width least most : Nat) (text : Text) : Option (Nat × Text) :=
  let digits := text.take width
  let number := digitsValue 10 digits
  if digits.length = width ∧ digits.all Char.isDigit ∧ least ≤ number ∧ number ≤ most then
    some (number, text.drop width)
  else none

def afterChar (expected : Char) : Text → Option Text
  | [] => none
  | c :: rest => if c = expected then some rest else none

def monthLength (year month : Nat) : Nat :=
  if month = 2 then
    if year % 4 = 0 ∧ (year % 100 ≠ 0 ∨ year % 400 = 0) then 29 else 28
  else if month = 4 ∨ month = 6 ∨ month = 9 ∨ month = 11 then 30
  else 31

def afterDate (text : Text) : Option Text := do
  let (year, rest) ← fixedNumber 4 0 9999 text
  let (month, rest) ← (afterChar '-' rest).bind (fixedNumber 2 1 12)
  let (_, rest) ← (afterChar '-' rest).bind (fixedNumber 2 1 (monthLength year month))
  return rest

def afterTime (text : Text) : Option Text := do
  let (_, rest) ← fixedNumber 2 0 23 text
  let (_, rest) ← (afterChar ':' rest).bind (fixedNumber 2 0 59)
  let (_, rest) ← (afterChar ':' rest).bind (fixedNumber 2 0 60)
  match rest with
  | '.' :: fraction =>
      if fraction.takeWhile Char.isDigit = [] then none
      else return fraction.dropWhile Char.isDigit
  | _ => return rest

def isOffset : Text → Bool
  | [] => true
  | ['Z'] | ['z'] => true
  | sign :: rest =>
      (sign = '+' || sign = '-') &&
        ((fixedNumber 2 0 23 rest).bind fun hours =>
          (afterChar ':' hours.2).bind (fixedNumber 2 0 59)).any fun minutes => minutes.2 = []

def isZonedTime (text : Text) : Bool := (afterTime text).any isOffset

def isMoment (text : Text) : Bool :=
  match afterDate text with
  | some [] => true
  | some (letter :: time) => (letter = 'T' || letter = 't') && isZonedTime time
  | none => afterTime text = some []

def isScalarChar (c : Char) : Bool :=
  c.isAlphanum || c = '+' || c = '-' || c = '_' || c = '.' || c = ':'

def scalar? (written : Text) : Option Value :=
  if written = "true".toList then some (.boolean true)
  else if written = "false".toList then some (.boolean false)
  else if isSpecialFloat written || isFloat written then some (.float written)
  else if isMoment written then some (.moment written)
  else (integer? written).map .integer

/-- Read a value without brackets and quotes, and what follows it.  A space may
stand between a date and a time. -/
def readScalar (text : Text) : Option (Value × Text) :=
  let first := text.takeWhile isScalarChar
  let rest := text.dropWhile isScalarChar
  let second := (rest.drop 1).takeWhile isScalarChar
  if rest.head? = some ' ' ∧ afterDate first = some [] ∧ isZonedTime second then
    some (.moment (first ++ ' ' :: second), (rest.drop 1).dropWhile isScalarChar)
  else (scalar? first).map fun value => (value, rest)

end Toml

end ChangeScript

/-
How many occurrences a search replaces.

The value is the word `all`, or a positive number in decimal digits.  Numbers
that do not fit into 64 bits count as the greatest that does.
-/

import ChangeScript.Text.Basic

set_option autoImplicit false

namespace ChangeScript

inductive Count where
  | all
  | limit (most : Nat)
deriving DecidableEq, Repr

namespace Count

def ceiling : Nat := 0xFFFFFFFFFFFFFFFF

/-- Append a digit to a number; multiplication and addition both stop at `ceiling`. -/
def appendDigit (number : Nat) (digit : Char) : Nat :=
  min (min (number * 10) ceiling + (digit.toNat - '0'.toNat)) ceiling

/-- Read an attribute value.  Signs, blanks and points are refused, and so is zero. -/
def ofText? (value : Text) : Option Count :=
  if value = "all".toList then some .all
  else if value ≠ [] ∧ value.all Char.isDigit then
    match value.foldl appendDigit 0 with
    | 0 => none
    | most + 1 => some (.limit (most + 1))
  else none

def toText : Count → Text
  | .all => "all".toList
  | .limit most => Text.ofNat most

end Count

end ChangeScript

/-
Named values on a marker.

An attribute list is read left to right: a name, an equals sign and a quoted
value, with optional blanks around each.  The first failure decides the answer.
An attribute list is written with double quotes and one space before each name.
-/

import ChangeScript.Text.Blank

set_option autoImplicit false

namespace ChangeScript

open Text

structure Attribute where
  name : Text
  value : Text
deriving DecidableEq, Repr

namespace Attribute

def find? (name : Text) (entries : List Attribute) : Option Text :=
  (entries.find? fun entry => entry.name = name).map Attribute.value

/-- Whether two lists declare the same values, in whatever order. -/
def sameValues (left right : List Attribute) : Bool :=
  left.length = right.length && left.all fun entry => find? entry.name right = some entry.value

inductive Fault where
  | emptyName
  | missingEquals
  | missingValue
  | unquotedValue
  | unterminatedValue
  | duplicate (name : Text)
deriving DecidableEq, Repr

def Fault.message : Fault → Text
  | .emptyName => "Invalid attribute syntax".toList
  | .missingEquals => "Expected '=' after attribute name".toList
  | .missingValue => "Missing attribute value".toList
  | .unquotedValue => "Unquoted attribute value".toList
  | .unterminatedValue => "Unterminated quoted value".toList
  | .duplicate name => "Duplicate attribute: ".toList ++ name

def isNameChar (c : Char) : Bool := !isBlank c && c ≠ '='

def isQuote (c : Char) : Bool := c = '"' || c = '\''

/-- The value up to the closing quote, and what follows the quote.  A backslash
before the quote or before another backslash gives that second character; any
other backslash stands for itself. -/
def readBody (quote : Char) : Text → Option (Text × Text)
  | [] => none
  | c :: rest =>
      if c = quote then some ([], rest)
      else if c = '\\' then
        match rest with
        | [] => none
        | d :: after =>
            if d = quote ∨ d = '\\' then
              (readBody quote after).map fun found => (d :: found.1, found.2)
            else
              (readBody quote (d :: after)).map fun found => ('\\' :: found.1, found.2)
      else
        (readBody quote rest).map fun found => (c :: found.1, found.2)

def readValue : Text → Except Fault (Text × Text)
  | [] => .error .missingValue
  | quote :: rest =>
      if isQuote quote then
        match readBody quote rest with
        | some found => .ok found
        | none => .error .unterminatedValue
      else .error .unquotedValue

def readOne (text : Text) : Except Fault (Attribute × Text) :=
  let name := text.takeWhile isNameChar
  if name = [] then .error .emptyName
  else
    match (text.dropWhile isNameChar).dropWhile isBlank with
    | [] => .error .missingEquals
    | c :: rest =>
        if c = '=' then
          match readValue (rest.dropWhile isBlank) with
          | .ok found => .ok (⟨name, found.1⟩, found.2)
          | .error fault => .error fault
        else .error .missingEquals

private theorem readBody_length {quote : Char} {text value after : Text}
    (found : readBody quote text = some (value, after)) : after.length < text.length := by
  fun_induction readBody quote text generalizing value after with
  | case1 => simp at found
  | case2 rest => simp_all
  | case3 _ => simp at found
  | case4 _ d rest _ ih =>
      obtain ⟨⟨tail, left⟩, read, same⟩ := Option.map_eq_some_iff.1 found
      have shorter := ih read
      simp only [Prod.mk.injEq] at same
      simp only [List.length_cons, ← same.2]
      omega
  | case5 _ d rest _ ih =>
      obtain ⟨⟨tail, left⟩, read, same⟩ := Option.map_eq_some_iff.1 found
      have shorter := ih read
      simp only [Prod.mk.injEq] at same
      simp only [List.length_cons, ← same.2] at shorter ⊢
      omega
  | case6 c rest _ _ ih =>
      obtain ⟨⟨tail, left⟩, read, same⟩ := Option.map_eq_some_iff.1 found
      have shorter := ih read
      simp only [Prod.mk.injEq] at same
      simp only [List.length_cons, ← same.2]
      omega

private theorem readValue_length {text value after : Text}
    (found : readValue text = .ok (value, after)) : after.length < text.length := by
  cases text with
  | nil => simp [readValue] at found
  | cons quote rest =>
      simp only [readValue] at found
      split at found
      · split at found
        · next body read =>
            cases found
            exact Nat.lt_succ_of_lt (readBody_length read)
        · cases found
      · cases found

theorem readOne_length {text after : Text} {entry : Attribute}
    (found : readOne text = .ok (entry, after)) : after.length < text.length := by
  simp only [readOne] at found
  split at found
  · cases found
  · split at found
    · cases found
    · next c rest shape =>
        split at found
        · split at found
          · next value read =>
              cases found
              have first := (List.dropWhile_sublist isNameChar (l := text)).length_le
              have second :=
                (List.dropWhile_sublist isBlank (l := text.dropWhile isNameChar)).length_le
              have third := (List.dropWhile_sublist isBlank (l := rest)).length_le
              have fourth := readValue_length read
              rw [shape, List.length_cons] at second
              omega
          · cases found
        · cases found

def readAfter (known : List Attribute) (text : Text) : Except Fault (List Attribute) :=
  match _shape : text.dropWhile isBlank with
  | [] => .ok known
  | c :: rest =>
      match _read : readOne (c :: rest) with
      | .error fault => .error fault
      | .ok (entry, after) =>
          if known.any fun earlier => earlier.name = entry.name then .error (.duplicate entry.name)
          else readAfter (known ++ [entry]) after
termination_by text.length
decreasing_by
  have first := (List.dropWhile_sublist isBlank (l := text)).length_le
  have second := readOne_length _read
  rw [_shape] at first
  omega

def readList (text : Text) : Except Fault (List Attribute) := readAfter [] text

def escape : Text → Text
  | [] => []
  | c :: rest => if c = '\\' ∨ c = '"' then '\\' :: c :: escape rest else c :: escape rest

def write (entry : Attribute) : Text :=
  ' ' :: entry.name ++ "=\"".toList ++ escape entry.value ++ ['"']

def writeList (entries : List Attribute) : Text := entries.flatMap write

end Attribute

end ChangeScript

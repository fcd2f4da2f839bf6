/-
Marker lines.

A marker is the opening delimiter, a name of ASCII letters, digits and
underscores, optionally blanks and an argument text that ends in no blank, and
the closing delimiter.  A whole line can be a marker, or a marker can stand at
the front of a line with more text behind it.
-/

import ChangeScript.Text.Blank

set_option autoImplicit false

namespace ChangeScript

open Text

structure Delimiters where
  opening : Text
  closing : Text
deriving DecidableEq, Repr

def Delimiters.standard : Delimiters := ⟨"<---".toList, "--->".toList⟩

/-- The name of a marker and the text between the name and the closing
delimiter, empty if there is none. -/
structure Marker where
  name : Text
  arguments : Text
deriving DecidableEq, Repr

namespace Marker

def isWordChar (c : Char) : Bool := c.isAlphanum || c = '_'

def isArguments (text : Text) : Bool := endsSolid text && !text.contains '\n'

def ofBody? (body : Text) : Option Marker :=
  let name := body.takeWhile isWordChar
  let rest := body.dropWhile isWordChar
  let arguments := rest.dropWhile isBlank
  if name = [] then none
  else if rest = [] then some ⟨name, []⟩
  else if arguments ≠ rest ∧ isArguments arguments then some ⟨name, arguments⟩
  else none

def isCandidate (delimiters : Delimiters) (line : Text) : Bool :=
  delimiters.opening.isPrefixOf line

def ofLine? (delimiters : Delimiters) (line : Text) : Option Marker :=
  match delimiters.opening.isPrefixOf? line with
  | none => none
  | some rest =>
      match delimiters.closing.isSuffixOf? rest with
      | none => none
      | some body => ofBody? body

def longestArguments? (closing : Text) : Text → Option (Text × Text)
  | [] => none
  | c :: rest =>
      if c = '\n' then none
      else
        match longestArguments? closing rest with
        | some found => some (c :: found.1, found.2)
        | none =>
            if isBlank c then none
            else (closing.isPrefixOf? rest).map fun behind => ([c], behind)

def longestName? (closing : Text) : Text → Option (Text × Text)
  | [] => none
  | c :: rest =>
      if isWordChar c then
        match longestName? closing rest with
        | some found => some (c :: found.1, found.2)
        | none => (closing.isPrefixOf? rest).map fun behind => ([c], behind)
      else none

/-- The marker at the front of what follows an opening delimiter, and what is
behind it.  The longest name goes first, then arguments rather than none, then
the longest arguments. -/
def ofFront? (closing rest : Text) : Option (Marker × Text) :=
  let name := rest.takeWhile isWordChar
  let after := rest.dropWhile isWordChar
  let withArguments :=
    if name ≠ [] ∧ after.dropWhile isBlank ≠ after then
      longestArguments? closing (after.dropWhile isBlank)
    else none
  match withArguments with
  | some found => some (⟨name, found.1⟩, found.2)
  | none => (longestName? closing rest).map fun found => (⟨found.1, []⟩, found.2)

def leading? (delimiters : Delimiters) (line : Text) : Option (Marker × Text) :=
  match delimiters.opening.isPrefixOf? line with
  | none => none
  | some rest =>
      match ofFront? delimiters.closing rest with
      | none => none
      | some found => if found.2 = [] then none else some found

end Marker

end ChangeScript

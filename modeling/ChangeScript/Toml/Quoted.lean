/-
Quoted TOML strings: basic ones with escapes and literal ones without, on one
line or over several.
-/

import ChangeScript.Toml.Scalar

set_option autoImplicit false

namespace ChangeScript

namespace Toml

open Text

/-- Whether a character may stand in a string or a comment as it is: any but the
control characters, of which a tab is allowed. -/
def isPlain (c : Char) : Bool := c = '\t' || (0x20 ≤ c.toNat && c.toNat ≠ 0x7F)

def push (c : Char) (found : Option (Text × Text)) : Option (Text × Text) :=
  found.map fun read => (c :: read.1, read.2)

def scalarChar? (digits : Text) : Option Char :=
  let number := digitsValue 16 digits
  if digits.all (isDigitOf 16) && (number < 0xD800 || (0xDFFF < number && number < 0x110000)) then
    some (Char.ofNat number)
  else none

def escaped? (c : Char) : Option Char :=
  if c = 'b' then some '\x08'
  else if c = 't' then some '\t'
  else if c = 'n' then some '\n'
  else if c = 'f' then some '\x0c'
  else if c = 'r' then some '\r'
  else if c = '"' ∨ c = '\\' then some c
  else none

def readBasic : Text → Option (Text × Text)
  | [] => none
  | '"' :: rest => some ([], rest)
  | '\\' :: 'u' :: a :: b :: c :: d :: rest =>
      match scalarChar? [a, b, c, d] with
      | some found => push found (readBasic rest)
      | none => none
  | '\\' :: 'U' :: a :: b :: c :: d :: e :: f :: g :: h :: rest =>
      match scalarChar? [a, b, c, d, e, f, g, h] with
      | some found => push found (readBasic rest)
      | none => none
  | '\\' :: c :: rest =>
      match escaped? c with
      | some found => push found (readBasic rest)
      | none => none
  | c :: rest => if isPlain c ∧ c ≠ '\\' then push c (readBasic rest) else none

def readLiteral : Text → Option (Text × Text)
  | [] => none
  | c :: rest =>
      if c = '\'' then some ([], rest)
      else if isPlain c then push c (readLiteral rest)
      else none

def afterLineEnd : Text → Option Text
  | '\n' :: rest => some rest
  | '\r' :: '\n' :: rest => some rest
  | _ => none

def isSpace (c : Char) : Bool := c = ' ' || c = '\t'

/-- A string of several lines closes with three quotes, and up to two more stand
before them. -/
def closeMultiline (mark : Char) : Text → Text × Text
  | a :: b :: rest =>
      if a = mark ∧ b = mark then ([a, b], rest)
      else if a = mark then ([a], b :: rest)
      else ([], a :: b :: rest)
  | [a] => if a = mark then ([a], []) else ([], [a])
  | [] => ([], [])

/-- A basic string of several lines, and what follows it.  A backslash at the end
of a line takes away all blanks up to the next character that is none, which
`skipping` remembers. -/
def readMultilineBasic (skipping : Bool) : Text → Option (Text × Text)
  | [] => none
  | '"' :: '"' :: '"' :: rest => some (closeMultiline '"' rest)
  | '\r' :: '\n' :: rest =>
      if skipping then readMultilineBasic true rest else push '\n' (readMultilineBasic false rest)
  | '\\' :: 'u' :: a :: b :: c :: d :: rest =>
      match scalarChar? [a, b, c, d] with
      | some found => push found (readMultilineBasic false rest)
      | none => none
  | '\\' :: 'U' :: a :: b :: c :: d :: e :: f :: g :: h :: rest =>
      match scalarChar? [a, b, c, d, e, f, g, h] with
      | some found => push found (readMultilineBasic false rest)
      | none => none
  | '\\' :: c :: rest =>
      if (afterLineEnd ((c :: rest).dropWhile isSpace)).isSome then
        readMultilineBasic true (c :: rest)
      else
        match escaped? c with
        | some found => push found (readMultilineBasic false rest)
        | none => none
  | c :: rest =>
      if skipping ∧ (isSpace c ∨ c = '\n') then readMultilineBasic true rest
      else if (isPlain c ∧ c ≠ '\\') ∨ c = '\n' then push c (readMultilineBasic false rest)
      else none

def readMultilineLiteral : Text → Option (Text × Text)
  | [] => none
  | '\'' :: '\'' :: '\'' :: rest => some (closeMultiline '\'' rest)
  | '\r' :: '\n' :: rest => push '\n' (readMultilineLiteral rest)
  | c :: rest => if isPlain c ∨ c = '\n' then push c (readMultilineLiteral rest) else none

def skipLineEnd (text : Text) : Text := (afterLineEnd text).getD text

def readQuoted : Text → Option (Text × Text)
  | '"' :: '"' :: '"' :: rest => readMultilineBasic false (skipLineEnd rest)
  | '\'' :: '\'' :: '\'' :: rest => readMultilineLiteral (skipLineEnd rest)
  | '"' :: rest => readBasic rest
  | '\'' :: rest => readLiteral rest
  | _ => none

end Toml

end ChangeScript

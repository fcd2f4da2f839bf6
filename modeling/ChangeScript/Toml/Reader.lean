/-
TOML documents.

A document is read into statements, one a line, which then define its table.
The depth of nested values and the number of statements are bounded by the
length of the text that is left.
-/

import ChangeScript.Toml.Quoted

set_option autoImplicit false

namespace ChangeScript

namespace Toml

open Text

def isBareChar (c : Char) : Bool := c.isAlphanum || c = '_' || c = '-'

def readKeyPart : Text → Option (Text × Text)
  | '"' :: rest => readBasic rest
  | '\'' :: rest => readLiteral rest
  | text =>
      if text.takeWhile isBareChar = [] then none
      else some (text.takeWhile isBareChar, text.dropWhile isBareChar)

/-- The parts of a dotted key as a path and a last part, and what follows them
and the blanks behind them. -/
def readKey : Nat → Text → Option ((List Text × Text) × Text)
  | 0, _ => none
  | bound + 1, text => do
      let (part, rest) ← readKeyPart text
      match rest.dropWhile isSpace with
      | '.' :: after =>
          let ((path, key), behind) ← readKey bound (after.dropWhile isSpace)
          return ((part :: path, key), behind)
      | behind => return (([], part), behind)

def skipComment : Text → Text
  | '#' :: rest => rest.dropWhile isPlain
  | text => text

def readLineEnd (text : Text) : Option Text :=
  match skipComment (text.dropWhile isSpace) with
  | [] => some []
  | rest => afterLineEnd rest

def skipLines : Nat → Text → Text
  | 0, text => text
  | bound + 1, text =>
      match text.dropWhile isSpace with
      | [] => []
      | rest =>
          match afterLineEnd (skipComment rest) with
          | some after => skipLines bound after
          | none => rest

mutual
def readValue : Nat → Text → Option (Value × Text)
  | 0, _ => none
  | bound + 1, text =>
      match text with
      | [] => none
      | c :: rest =>
          if c = '"' ∨ c = '\'' then
            (readQuoted text).map fun found => (.string found.1, found.2)
          else if c = '[' then
            (readItems bound rest).map fun found => (.array found.1, found.2)
          else if c = '\x7b' then
            match rest.dropWhile isSpace with
            | '\x7d' :: after => some (.table [], after)
            | first =>
                (readPairs bound first).bind fun found =>
                  (defineAll found.1 []).map fun members =>
                    (.table (Definition.memberValues members), found.2)
          else readScalar text

def readItems : Nat → Text → Option (List Value × Text)
  | 0, _ => none
  | bound + 1, text =>
      match skipLines text.length text with
      | ']' :: after => some ([], after)
      | first => do
          let (item, rest) ← readValue bound first
          match skipLines rest.length rest with
          | ',' :: more =>
              let (items, after) ← readItems bound more
              return (item :: items, after)
          | ']' :: after => return ([item], after)
          | _ => none

def readPairs : Nat → Text → Option (List Pair × Text)
  | 0, _ => none
  | bound + 1, text => do
      let (entry, rest) ← readPair bound text
      match rest.dropWhile isSpace with
      | ',' :: more =>
          let (entries, after) ← readPairs bound (more.dropWhile isSpace)
          return (entry :: entries, after)
      | '\x7d' :: after => return ([entry], after)
      | _ => none

def readPair : Nat → Text → Option (Pair × Text)
  | 0, _ => none
  | bound + 1, text => do
      let ((path, key), rest) ← readKey text.length text
      let after ← afterChar '=' rest
      let (value, behind) ← readValue bound (after.dropWhile isSpace)
      return (⟨path, key, value⟩, behind)
end

def readStatement : Text → Option (Statement × Text)
  | '[' :: '[' :: rest => do
      let ((path, key), rest) ← readKey rest.length (rest.dropWhile isSpace)
      let after ← "]]".toList.isPrefixOf? rest
      return (.element path key, after)
  | '[' :: rest => do
      let ((path, key), rest) ← readKey rest.length (rest.dropWhile isSpace)
      let after ← afterChar ']' rest
      return (.table path key, after)
  | text => do
      let (entry, after) ← readPair (3 * text.length + 3) text
      return (.pair entry, after)

def readStatements : Nat → Text → Option (List Statement)
  | 0, _ => none
  | bound + 1, text =>
      match skipLines text.length text with
      | [] => some []
      | '#' :: rest => if rest.dropWhile isPlain = [] then some [] else none
      | first => do
          let (statement, rest) ← readStatement first
          let after ← readLineEnd rest
          let statements ← readStatements bound after
          return statement :: statements

def read (document : Text) : Option (List (Text × Value)) :=
  let text := (['\uFEFF'].isPrefixOf? document).getD document
  (readStatements (text.length + 1) text).bind build

end Toml

end ChangeScript

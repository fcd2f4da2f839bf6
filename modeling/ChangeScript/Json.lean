/-
JSON values and their text, on one line or indented.
-/

import ChangeScript.Text.Basic

set_option autoImplicit false

namespace ChangeScript

open Text

inductive Json where
  | number (value : Nat)
  | string (value : Text)
  | array (items : List Json)
  | object (members : List (Text × Json))
deriving Repr

namespace Json

def escapeChar (c : Char) : Text :=
  if c = '"' then "\\\"".toList
  else if c = '\\' then "\\\\".toList
  else if c = '\x08' then "\\b".toList
  else if c = '\x0c' then "\\f".toList
  else if c = '\n' then "\\n".toList
  else if c = '\r' then "\\r".toList
  else if c = '\t' then "\\t".toList
  else if c.toNat < 0x20 then
    "\\u00".toList ++ [Nat.digitChar (c.toNat / 16), Nat.digitChar (c.toNat % 16)]
  else [c]

def quote (text : Text) : Text := '"' :: text.flatMap escapeChar ++ ['"']

mutual
def compact : Json → Text
  | .number value => ofNat value
  | .string value => quote value
  | .array items => '[' :: List.intercalate [','] (compactItems items) ++ [']']
  | .object members => '\x7b' :: List.intercalate [','] (compactMembers members) ++ ['\x7d']

def compactItems : List Json → List Text
  | [] => []
  | item :: rest => item.compact :: compactItems rest

def compactMembers : List (Text × Json) → List Text
  | [] => []
  | (key, value) :: rest => (quote key ++ ':' :: value.compact) :: compactMembers rest
end

def indentation (level : Nat) : Text := List.replicate (2 * level) ' '

def bracket (first last : Char) (level : Nat) (items : List Text) : Text :=
  if items = [] then [first, last]
  else
    first :: '\n' ::
      List.intercalate ",\n".toList (items.map fun item => indentation (level + 1) ++ item) ++
      '\n' :: indentation level ++ [last]

mutual
def indented (level : Nat) : Json → Text
  | .number value => ofNat value
  | .string value => quote value
  | .array items => bracket '[' ']' level (indentedItems (level + 1) items)
  | .object members => bracket '\x7b' '\x7d' level (indentedMembers (level + 1) members)

def indentedItems (level : Nat) : List Json → List Text
  | [] => []
  | item :: rest => item.indented level :: indentedItems level rest

def indentedMembers (level : Nat) : List (Text × Json) → List Text
  | [] => []
  | (key, value) :: rest =>
      (quote key ++ ": ".toList ++ value.indented level) :: indentedMembers level rest
end

end Json

end ChangeScript

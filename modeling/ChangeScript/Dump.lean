/-
Operations as an indented listing of their parts.
-/

import ChangeScript.Operation
import ChangeScript.Text.Display

set_option autoImplicit false

namespace ChangeScript

open Text

namespace Dump

/-- A character inside quotes.  What cannot be seen is given by its number. -/
def escapeChar (c : Char) : Text :=
  if c = '"' then "\\\"".toList
  else if c = '\\' then "\\\\".toList
  else if c = '\n' then "\\n".toList
  else if c = '\r' then "\\r".toList
  else if c = '\t' then "\\t".toList
  else if c = '\x00' then "\\0".toList
  else if isVisible c then [c]
  else "\\u\x7b".toList ++ Nat.toDigits 16 c.toNat ++ ['\x7d']

def quote (text : Text) : Text := '"' :: text.flatMap escapeChar ++ ['"']

def withLead (lead : Text) : List Text → List Text
  | [] => [lead]
  | first :: rest => (lead ++ first) :: rest

def withComma : List Text → List Text
  | [] => [[',']]
  | [last] => [last ++ [',']]
  | first :: second :: rest => first :: withComma (second :: rest)

def part (lead : String) (lines : List Text) : List Text :=
  (withComma (withLead lead.toList lines)).map fun line => "    ".toList ++ line

def block (opening closing : String) (parts : List (List Text)) : List Text :=
  if parts = [] then [opening.toList ++ closing.toList]
  else opening.toList :: parts.flatten ++ [closing.toList]

def headerParts (header : Header) : List (List Text) :=
  [part "line: " [ofNat header.line],
    part "attributes: " (block "\x7b" "\x7d" (header.attributes.map fun entry =>
      part "" [quote entry.name ++ ": ".toList ++ quote entry.value]))]

def optionalText : Option Text → List Text
  | none => ["None".toList]
  | some text => block "Some(" ")" [part "" [quote text]]

mutual
def operation : Operation → List Text
  | .write header content =>
      block "Write(" ")" [part "" (block "Write \x7b" "\x7d"
        (headerParts header ++ [part "content: " [quote content]]))]
  | .run header content =>
      block "Run(" ")" [part "" (block "Run \x7b" "\x7d"
        (headerParts header ++ [part "content: " [quote content]]))]
  | .search header pattern upTo replacement =>
      block "Search(" ")" [part "" (block "Search \x7b" "\x7d"
        (headerParts header ++ [part "pattern: " [quote pattern], part "to: " (optionalText upTo),
          part "replacement: " [quote replacement]]))]
  | .tasks header operations =>
      block "Tasks(" ")" [part "" (block "Tasks \x7b" "\x7d"
        (headerParts header ++ [part "operations: " (block "[" "]" (operationParts operations))]))]

def operationParts : List Operation → List (List Text)
  | [] => []
  | first :: rest => part "" (operation first) :: operationParts rest
end

def listing (operations : List Operation) : Text :=
  joinFeeds (block "[" "]" (operationParts operations))

end Dump

end ChangeScript

/-
The operations of a change script.

A write replaces or extends a file, a run holds a command, a search replaces
occurrences of a pattern, or of everything from a pattern to another, and a
tasks block groups operations.  Each records the line of its opening marker and
the attributes declared there.
-/

import ChangeScript.Attribute
import ChangeScript.Count
import ChangeScript.Keyword

set_option autoImplicit false

namespace ChangeScript

structure Header where
  line : Nat
  attributes : List Attribute
deriving DecidableEq, Inhabited, Repr

def Header.value? (header : Header) (name : String) : Option Text :=
  Attribute.find? name.toList header.attributes

inductive Operation where
  | write (header : Header) (content : Text)
  | run (header : Header) (content : Text)
  | search (header : Header) (pattern : Text) (upTo : Option Text) (replacement : Text)
  | tasks (header : Header) (operations : List Operation)
deriving Inhabited, Repr

namespace Operation

def kind : Operation → Kind
  | .write _ _ => .write
  | .run _ _ => .run
  | .search _ _ _ _ => .search
  | .tasks _ _ => .tasks

def header : Operation → Header
  | .write header _ => header
  | .run header _ => header
  | .search header _ _ _ => header
  | .tasks header _ => header

def line (operation : Operation) : Nat := operation.header.line

def attributes (operation : Operation) : List Attribute := operation.header.attributes

end Operation

namespace Header

/-- The file to change.  An empty name counts as none. -/
def file? (header : Header) : Option Text := (header.value? "file").filter fun name => name ≠ []

def append? (header : Header) : Option Text := header.value? "append"

def appendMode? (header : Header) : Option Bool :=
  match header.append? with
  | none => none
  | some value =>
      if value = "true".toList then some true
      else if value = "false".toList then some false
      else none

def folder? (header : Header) : Option Text := header.value? "dir"

def count? (header : Header) : Option Text := header.value? "count"

end Header

namespace Operation

def sameHeader (left right : Header) : Bool :=
  left.line = right.line && Attribute.sameValues left.attributes right.attributes

mutual
def same : Operation → Operation → Bool
  | .write header content, .write header' content' =>
      sameHeader header header' && content = content'
  | .run header content, .run header' content' =>
      sameHeader header header' && content = content'
  | .search header pattern upTo replacement, .search header' pattern' upTo' replacement' =>
      sameHeader header header' && pattern = pattern' && upTo = upTo' && replacement = replacement'
  | .tasks header operations, .tasks header' operations' =>
      sameHeader header header' && sameList operations operations'
  | _, _ => false

def sameList : List Operation → List Operation → Bool
  | [], [] => true
  | left :: lefts, right :: rights => same left right && sameList lefts rights
  | _, _ => false
end

end Operation

end ChangeScript

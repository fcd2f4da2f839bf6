/-
Files and folders.

A path is a text of names with slashes between them.  It is followed from a
folder name by name, `.` staying in place and `..` going back.
-/

import ChangeScript.Text.Basic

set_option autoImplicit false

namespace ChangeScript

open Text

inductive Entry where
  | file (bytes : ByteArray)
  | folder (children : List (Text × Entry))

namespace Entry

inductive Fault where
  | notFound
  | notFolder
  | isFolder
  | denied
  | notText
deriving DecidableEq, Repr

def Fault.message : Fault → Text
  | .notFound => "No such file or directory (os error 2)".toList
  | .notFolder => "Not a directory (os error 20)".toList
  | .isFolder => "Is a directory (os error 21)".toList
  | .denied => "Permission denied (os error 13)".toList
  | .notText => "stream did not contain valid UTF-8".toList

def text : Entry → Except Fault Text
  | .folder _ => .error .isFolder
  | .file bytes =>
      match String.fromUTF8? bytes with
      | some decoded => .ok decoded.toList
      | none => .error .notText

/-- The names in a path.  Two slashes in a row have an empty name between them. -/
def names (path : Text) : List Text := path.splitOn '/'

def lastName (path : Text) : Text := (path.reverse.takeWhile fun c => c ≠ '/').reverse

/-- Follow names from an entry; the folders that lead to it are `above`. -/
def follow (above : List Entry) (entry : Entry) : List Text → Except Fault Entry
  | [] => .ok entry
  | name :: rest =>
      match entry with
      | .file _ => .error .notFolder
      | .folder children =>
          if name = [] ∨ name = ['.'] then follow above entry rest
          else if name = "..".toList then
            match above with
            | [] => .error .notFound
            | parent :: further => follow further parent rest
          else
            match children.lookup name with
            | none => .error .notFound
            | some found => follow (entry :: above) found rest

def find (root : Entry) (path : Text) : Except Fault Entry :=
  if path = [] ∨ path.head? = some '/' then .error .notFound
  else follow [] root (names path)

def putChild (name : Text) (entry : Entry) : List (Text × Entry) → List (Text × Entry)
  | [] => [(name, entry)]
  | (known, old) :: rest =>
      if known = name then (known, entry) :: rest else (known, old) :: putChild name entry rest

def put (bytes : ByteArray) : List Text → Entry → Entry
  | [], _ => .file bytes
  | name :: rest, entry =>
      let children := match entry with
        | .file _ => []
        | .folder children => children
      .folder (putChild name (put bytes rest ((children.lookup name).getD (.folder []))) children)

def ofFiles (files : List (Text × ByteArray)) : Entry :=
  files.foldl
    (fun root file =>
      put file.2 ((names file.1).filter fun name => name ≠ [] ∧ name ≠ ['.']) root)
    (.folder [])

end Entry

end ChangeScript

/-
Fixture files in folders.

The fixture files below a folder are grouped by the folder that holds them.
-/

import ChangeScript.Entry
import ChangeScript.Fixture.Verdict
import ChangeScript.Suite.Basic

set_option autoImplicit false

namespace ChangeScript

open Text

namespace Suite

def ending : Text := ".test.csl".toList

def dropTails (tail : Text) : Nat → Text → Text
  | 0, text => text
  | bound + 1, text =>
      match tail.isSuffixOf? text with
      | some rest => dropTails tail bound rest
      | none => text

def attempt (path : Text) (entry : Entry) : Trial :=
  let name := Entry.lastName path
  let plainLabel := dropTails ending name.length name
  match entry.text with
  | .error fault => ⟨path, plainLabel, some ("cannot read file: ".toList ++ fault.message)⟩
  | .ok text =>
      match Fixture.read text with
      | .error fault => ⟨path, plainLabel, some ("frontmatter error: ".toList ++ fault.message)⟩
      | .ok fixture =>
          ⟨path, fixture.config.description.getD plainLabel,
            fixture.mismatch?.map Fixture.Mismatch.text⟩

structure Found where
  names : List Text
  entry : Entry

/-- The folder of a fixture file.  A backslash in a name counts as a slash. -/
def Found.category (found : Found) : Text :=
  (List.intercalate ['/'] found.names.dropLast).map fun c => if c = '\\' then '/' else c

mutual
def findIn (names : List Text) : Entry → List Found
  | .file bytes =>
      if ending.isSuffixOf (names.getLast?.getD []) then [⟨names, .file bytes⟩] else []
  | .folder children => findInAll names children

def findInAll (names : List Text) : List (Text × Entry) → List Found
  | [] => []
  | (name, entry) :: rest => findIn (names ++ [name]) entry ++ findInAll names rest
end

def namesPrecede : List Text → List Text → Bool
  | [], _ => true
  | _ :: _, [] => false
  | a :: left, b :: right => if a = b then namesPrecede left right else precedes a b

def group (files : List Found) : List (Category Found) :=
  let sorted := files.mergeSort fun left right => namesPrecede left.names right.names
  let categories := ((files.map Found.category).mergeSort precedes).eraseDups
  categories.map fun name => ⟨name, sorted.filter fun file => file.category = name⟩

def discover : Except Entry.Fault Entry → List (Category Found)
  | .ok (.folder children) => group (findInAll [] children)
  | _ => []

def Found.path (root : Text) (found : Found) : Text :=
  (if root.getLast? = some '/' then root else root ++ ['/']) ++ List.intercalate ['/'] found.names

def Found.attempt (root : Text) (found : Found) : Trial :=
  Suite.attempt (found.path root) found.entry

end Suite

end ChangeScript

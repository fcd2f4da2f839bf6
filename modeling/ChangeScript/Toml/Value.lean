/-
TOML values, and the tables that the statements of a document define.

A table can be defined by a header, by the dotted keys of a statement, or by the
headers of tables inside it.  Which of these it was decides what later
statements may add to it.  Values, inline tables among them, are closed.
-/

import ChangeScript.Text.Basic

set_option autoImplicit false

namespace ChangeScript

namespace Toml

/-- A value.  Floats and moments in time keep their written form. -/
inductive Value where
  | string (text : Text)
  | integer (number : Int)
  | float (written : Text)
  | boolean (flag : Bool)
  | moment (written : Text)
  | array (items : List Value)
  | table (members : List (Text × Value))
deriving Repr

def putMember {Item : Type} (key : Text) (item : Item) :
    List (Text × Item) → List (Text × Item)
  | [] => [(key, item)]
  | (name, old) :: rest =>
      if name = key then (name, item) :: rest else (name, old) :: putMember key item rest

inductive Origin where
  | declared
  | dotted
  | implied
deriving DecidableEq, Repr

/-- What a key of a document stands for.  The last of an array of tables is the
one that later statements add to. -/
inductive Definition where
  | closed (value : Value)
  | table (origin : Origin) (members : List (Text × Definition))
  | tables (elements : List (List (Text × Definition)))
deriving Repr

abbrev Members := List (Text × Definition)

namespace Definition

mutual
def value : Definition → Value
  | .closed value => value
  | .table _ members => .table (memberValues members)
  | .tables elements => .array (elementValues elements)

def memberValues : Members → List (Text × Value)
  | [] => []
  | (key, first) :: rest => (key, first.value) :: memberValues rest

def elementValues : List Members → List Value
  | [] => []
  | first :: rest => .table (memberValues first) :: elementValues rest
end

end Definition

structure Pair where
  path : List Text
  key : Text
  value : Value
deriving Repr

inductive Statement where
  | pair (entry : Pair)
  | table (path : List Text) (key : Text)
  | element (path : List Text) (key : Text)
deriving Repr

/-- Change the table at the end of a path, and make the tables on the way that
are missing.  Dotted keys do not lead into a table that a header declared. -/
def alter (missing : Origin) (change : Origin → Members → Option Members) :
    List Text → Origin → Members → Option Members
  | [], origin, members => change origin members
  | key :: path, _, members =>
      match members.lookup key with
      | none =>
          (alter missing change path missing []).map fun inner =>
            putMember key (.table missing inner) members
      | some (.closed _) => none
      | some (.table origin inner) =>
          if missing = .dotted ∧ origin = .declared then none
          else
            (alter missing change path origin inner).map fun changed =>
              putMember key (.table origin changed) members
      | some (.tables elements) =>
          match elements.reverse with
          | [] => none
          | last :: earlier =>
              (alter missing change path .declared last).map fun changed =>
                putMember key (.tables (changed :: earlier).reverse) members

def define (entry : Pair) (members : Members) : Option Members :=
  alter .dotted
    (fun origin inner =>
      if (origin = .dotted) = (entry.path = []) ∨ (inner.lookup entry.key).isSome then none
      else some (putMember entry.key (.closed entry.value) inner))
    entry.path .declared members

def defineAll : List Pair → Members → Option Members
  | [], members => some members
  | entry :: rest, members => (define entry members).bind (defineAll rest)

def declareTable (path : List Text) (key : Text) (pairs : List Pair) (root : Members) :
    Option Members :=
  alter .implied
    (fun _ members =>
      match members.lookup key with
      | none =>
          (defineAll pairs []).map fun inner => putMember key (.table .declared inner) members
      | some (.table .implied known) =>
          (defineAll pairs known).map fun inner => putMember key (.table .declared inner) members
      | some _ => none)
    path .declared root

def declareElement (path : List Text) (key : Text) (pairs : List Pair) (root : Members) :
    Option Members :=
  alter .implied
    (fun _ members =>
      match members.lookup key, defineAll pairs [] with
      | none, some inner => some (putMember key (.tables [inner]) members)
      | some (.tables elements), some inner =>
          some (putMember key (.tables (elements ++ [inner])) members)
      | _, _ => none)
    path .declared root

def leadingPairs : List Statement → List Pair
  | .pair entry :: rest => entry :: leadingPairs rest
  | _ => []

def followHeaders : List Statement → Members → Option Members
  | [], root => some root
  | .pair _ :: rest, root => followHeaders rest root
  | .table path key :: rest, root =>
      (declareTable path key (leadingPairs rest) root).bind (followHeaders rest)
  | .element path key :: rest, root =>
      (declareElement path key (leadingPairs rest) root).bind (followHeaders rest)

def build (statements : List Statement) : Option (List (Text × Value)) :=
  (defineAll (leadingPairs statements) []).bind fun root =>
    (followHeaders statements root).map Definition.memberValues

end Toml

end ChangeScript

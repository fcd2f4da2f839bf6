/-
The words that marker lines give a meaning to.

Four words open an operation of their kind, `END` closes the innermost open
one, and `TO` and `REPLACE` divide a search.
-/

import ChangeScript.Text.Basic

set_option autoImplicit false

namespace ChangeScript

inductive Kind where
  | write
  | run
  | search
  | tasks
deriving DecidableEq, Repr

namespace Kind

def name : Kind → Text
  | .write => "WRITE".toList
  | .run => "RUN".toList
  | .search => "SEARCH".toList
  | .tasks => "TASKS".toList

def all : List Kind := [.write, .run, .search, .tasks]

def ofName? (name : Text) : Option Kind := all.find? fun kind => kind.name = name

end Kind

inductive Keyword where
  | opens (kind : Kind)
  | upTo
  | replace
  | close
deriving DecidableEq, Repr

namespace Keyword

def name : Keyword → Text
  | .opens kind => kind.name
  | .upTo => "TO".toList
  | .replace => "REPLACE".toList
  | .close => "END".toList

def all : List Keyword := Kind.all.map .opens ++ [.upTo, .replace, .close]

def ofName? (name : Text) : Option Keyword := all.find? fun keyword => keyword.name = name

end Keyword

theorem Kind.ofName?_name (kind : Kind) : Kind.ofName? kind.name = some kind := by
  cases kind <;> decide

theorem Keyword.ofName?_name (keyword : Keyword) : Keyword.ofName? keyword.name = some keyword := by
  cases keyword with
  | opens kind => cases kind <;> decide
  | upTo => decide
  | replace => decide
  | close => decide

end ChangeScript

/-
Where a reader of change scripts stands, and which keywords lead on from there.
-/

import ChangeScript.Keyword

set_option autoImplicit false

namespace ChangeScript

inductive Phase where
  | idle
  | tasks
  | write
  | run
  | searchPattern
  | searchTo
  | searchReplacement
deriving DecidableEq, Repr

namespace Phase

def all : List Phase :=
  [.idle, .tasks, .write, .run, .searchPattern, .searchTo, .searchReplacement]

def title : Phase → Text
  | .idle => "IDLE".toList
  | .tasks => "TASKS".toList
  | .write => "WRITE".toList
  | .run => "RUN".toList
  | .searchPattern => "SEARCH PATTERN".toList
  | .searchTo => "SEARCH TO".toList
  | .searchReplacement => "SEARCH REPLACEMENT".toList

/-- Whether lines that are no markers are kept. -/
def collects : Phase → Bool
  | .idle | .tasks => false
  | .write | .run | .searchPattern | .searchTo | .searchReplacement => true

def admits : Phase → Keyword → Bool
  | .idle, .opens _ => true
  | .tasks, .opens kind => kind ≠ .tasks
  | .tasks, .close => true
  | .write, .close | .run, .close | .searchReplacement, .close => true
  | .searchPattern, .upTo | .searchPattern, .replace | .searchPattern, .close => true
  | .searchTo, .replace => true
  | _, _ => false

def accepts (phase : Phase) (name : Text) : Bool :=
  match Keyword.ofName? name with
  | some keyword => phase.admits keyword
  | none => false

end Phase

end ChangeScript

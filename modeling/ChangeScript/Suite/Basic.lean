/-
Suites of fixtures.

Fixtures are grouped into categories, which are named by folders and stand in
ascending order.  Requests select categories together with those below them.
Every fixture of a selected category is tried once.
-/

import ChangeScript.Text.Basic

set_option autoImplicit false

namespace ChangeScript

open Text

namespace Suite

structure Category (Item : Type) where
  name : Text
  items : List Item
deriving DecidableEq, Repr

def Category.map {Item Result : Type} (change : Item → Result) (category : Category Item) :
    Category Result :=
  ⟨category.name, category.items.map change⟩

def trimSlashes (request : Text) : Text :=
  trimEnd (fun c => c = '/') (request.dropWhile fun c => c = '/')

/-- Whether a request is for a category or for one above it. -/
def isFor (request name : Text) : Bool :=
  name = request || (request ++ ['/']).isPrefixOf name

def select {Item : Type} (requests : List Text) (categories : List (Category Item)) :
    List (Category Item) :=
  if requests = [] then categories
  else
    categories.filter fun category =>
      requests.any fun request => isFor (trimSlashes request) category.name

def unmatched {Item : Type} (requests : List Text) (categories : List (Category Item)) :
    List Text :=
  (requests.map trimSlashes).filter fun request =>
    !categories.any fun category => isFor request category.name

structure Trial where
  path : Text
  label : Text
  failure : Option Text
deriving DecidableEq, Repr

def Trial.passed (trial : Trial) : Bool := trial.failure.isNone

def failures (trials : List Trial) : List Trial := trials.filter fun trial => !trial.passed

def passCount (trials : List Trial) : Nat := (trials.filter Trial.passed).length

def exitCode (trials : List Trial) : Nat := if failures trials = [] then 0 else 1

def run {Item : Type} (attempt : Item → Trial) (requests : List Text)
    (categories : List (Category Item)) : List (Category Trial) :=
  (select requests categories).map (Category.map attempt)

def allTrials (results : List (Category Trial)) : List Trial := results.flatMap Category.items

/-- The exit code of a suite: to select nothing is a failure. -/
def suiteCode (results : List (Category Trial)) : Nat :=
  if results = [] then 1 else exitCode (allTrials results)

end Suite

end ChangeScript

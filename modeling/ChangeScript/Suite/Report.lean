/-
What is written about the trials of a suite.
-/

import ChangeScript.Paint
import ChangeScript.Suite.Basic

set_option autoImplicit false

namespace ChangeScript

open Text

namespace Suite

def label (name : Text) : Text := if name = [] then "(root)".toList else name

/-- The lines of a reason; a carriage return before a line feed belongs to it. -/
def reasonLines (reason : Text) : List Text :=
  let parts := reason.splitOn '\n'
  let ended := parts.dropLast.map fun part => (['\r'].isSuffixOf? part).getD part
  let last := parts.getLast?.getD []
  if last = [] then ended else ended ++ [last]

def trialText (coloured : Bool) (trial : Trial) : Text :=
  "  ".toList ++
    (if trial.passed then Style.good.paint coloured "PASS".toList
    else Style.bad.paint coloured "FAIL".toList) ++
    "  ".toList ++ trial.label ++ ['\n']

def failureText (trial : Trial) : Text :=
  "\n  --- ".toList ++ trial.path ++ " ---\n".toList ++
    endFeeds ((reasonLines (trial.failure.getD [])).map fun line => "  ".toList ++ line)

def closingText (coloured : Bool) (trials : List Trial) : Text :=
  let failed := failures trials
  let passed := ofNat (passCount trials)
  if failed = [] then
    "\ntest result: ".toList ++ Style.good.paint coloured "ok".toList ++ ". ".toList ++ passed ++
      " passed, 0 failed\n".toList
  else
    "\nfailures:\n".toList ++ failed.flatMap failureText ++ "\ntest result: ".toList ++
      Style.bad.paint coloured "FAILED".toList ++ ". ".toList ++ passed ++ " passed, ".toList ++
      ofNat failed.length ++ " failed (of ".toList ++ ofNat trials.length ++ ")\n".toList

def categoryText (coloured : Bool) (category : Category Trial) : Text :=
  '\n' :: Style.strong.paint coloured (label category.name) ++
    '\n' :: category.items.flatMap (trialText coloured)

def suiteText (coloured : Bool) (categories : List (Category Trial)) : Text :=
  categories.flatMap (categoryText coloured) ++
    closingText coloured (allTrials categories)

def warningText {Item : Type} (categories : List (Category Item)) (request : Text) : Text :=
  "warning: category '".toList ++ request ++ "' not found (available: ".toList ++
    List.intercalate ", ".toList (categories.map fun category => label category.name) ++ ")\n".toList

def listText {Item : Type} (categories : List (Category Item)) : Text :=
  "available categories:\n".toList ++
    endFeeds (categories.map fun category =>
      "  ".toList ++ label category.name ++ " (".toList ++ ofNat category.items.length ++
        " tests)".toList)

end Suite

end ChangeScript

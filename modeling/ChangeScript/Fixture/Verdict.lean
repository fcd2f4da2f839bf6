/-
Whether a script turns out as its fixture says.

An expected rejection is the only thing checked about a script that is refused.
Otherwise the number of operations and the findings are compared, findings one
by one and in order.
-/

import ChangeScript.Fixture.Basic
import ChangeScript.Review

set_option autoImplicit false

namespace ChangeScript

open Text

namespace Fixture

inductive Difference where
  | message (expected actual : Text)
  | line (expected actual : Nat)
  | parent (expected : Nat) (actual : Option Nat)
deriving DecidableEq, Repr

inductive Mismatch where
  | otherRejection (expected message : Text)
  | noRejection (expected : Text)
  | rejected (message : Text)
  | operationCount (expected actual : Nat)
  | findingCount (expected : Nat) (actual : List Finding)
  | finding (index : Nat) (difference : Difference)
deriving DecidableEq, Repr

/-- The first difference in the order message, line, parent. -/
def ExpectedFinding.difference? (expected : ExpectedFinding) (actual : Finding) :
    Option Difference :=
  if !actual.message.holds expected.contains then
    some (.message expected.contains actual.message)
  else
    match expected.line.filter fun line => line ≠ actual.line with
    | some line => some (.line line actual.line)
    | none =>
        match expected.parent.filter fun parent => some parent ≠ actual.parent with
        | some parent => some (.parent parent actual.parent)
        | none => none

def firstDifference? (index : Nat) : List ExpectedFinding → List Finding → Option Mismatch
  | expected :: restExpected, actual :: restActual =>
      match expected.difference? actual with
      | some difference => some (.finding index difference)
      | none => firstDifference? (index + 1) restExpected restActual
  | _, _ => none

def findingsMismatch? (expected : List ExpectedFinding) (actual : List Finding) :
    Option Mismatch :=
  if expected.length ≠ actual.length then some (.findingCount expected.length actual)
  else firstDifference? 0 expected actual

def reviewMismatch? (config : Config) (result : Review) : Option Mismatch :=
  match config.operations.filter fun count => count ≠ result.operations.length with
  | some count => some (.operationCount count result.operations.length)
  | none =>
      match config.findings with
      | some expected => findingsMismatch? expected result.findings
      | none => none

def Config.mismatch? (config : Config) (result : Except Rejection Review) : Option Mismatch :=
  match config.rejection, result with
  | some expected, .error rejection =>
      if rejection.message.holds expected then none
      else some (.otherRejection expected rejection.message)
  | some expected, .ok _ => some (.noRejection expected)
  | none, .error rejection => some (.rejected rejection.message)
  | none, .ok result => reviewMismatch? config result

def lineText : Option Nat → Text
  | none => "None".toList
  | some line => "Some(".toList ++ ofNat line ++ [')']

def Difference.text : Difference → Text
  | .message expected actual =>
      "expected message containing \"".toList ++ expected ++ "\", got: ".toList ++ actual
  | .line expected actual =>
      "expected on line ".toList ++ ofNat expected ++ ", got line ".toList ++ ofNat actual
  | .parent expected actual =>
      "expected parent TASKS line ".toList ++ lineText (some expected) ++ ", got ".toList ++
        lineText actual

def listFindings (findings : List Finding) : Text :=
  if findings = [] then "    (none)".toList
  else
    joinFeeds (findings.map fun finding =>
      "  - line ".toList ++ ofNat finding.line ++ ": ".toList ++ finding.message)

def Mismatch.text : Mismatch → Text
  | .otherRejection expected message =>
      "expected parse error containing \"".toList ++ expected ++ "\", got: ".toList ++ message
  | .noRejection expected =>
      "expected parse error containing \"".toList ++ expected ++
        "\", but parsing succeeded".toList
  | .rejected message => "unexpected parse error: ".toList ++ message
  | .operationCount expected actual =>
      "expected ".toList ++ ofNat expected ++ " top-level operation(s), got ".toList ++
        ofNat actual
  | .findingCount expected actual =>
      "expected ".toList ++ ofNat expected ++ " validation error(s), got ".toList ++
        ofNat actual.length ++ "\n  actual errors:\n".toList ++ listFindings actual
  | .finding index difference =>
      "error[".toList ++ ofNat index ++ "]: ".toList ++ difference.text

end Fixture

def Fixture.mismatch? (fixture : Fixture) : Option Fixture.Mismatch :=
  fixture.config.mismatch? (review fixture.config.delimiters fixture.source)

end ChangeScript

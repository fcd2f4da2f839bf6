/-
Fixtures: a script below a description of what reading it should give.

The description is a TOML document between two lines of three dashes.  All of
its keys are optional, and unknown keys are ignored.
-/

import ChangeScript.Marker
import ChangeScript.Toml.Reader

set_option autoImplicit false

namespace ChangeScript

open Text

namespace Fixture

structure ExpectedFinding where
  contains : Text
  line : Option Nat
  parent : Option Nat
deriving DecidableEq, Repr

structure Config where
  description : Option Text
  delimiters : Delimiters
  rejection : Option Text
  operations : Option Nat
  findings : Option (List ExpectedFinding)
deriving DecidableEq, Repr

inductive Fault where
  | missingOpening
  | missingClosing
  | invalidConfig
deriving DecidableEq, Repr

def Fault.message : Fault → Text
  | .missingOpening => "missing opening --- frontmatter delimiter".toList
  | .missingClosing => "missing closing --- frontmatter delimiter".toList
  | .invalidConfig => "TOML parse error".toList

def skipLineEnd (text : Text) : Text :=
  match "\r\n".toList.isPrefixOf? text with
  | some rest => rest
  | none => (['\n'].isPrefixOf? text).getD text

def split (text : Text) : Except Fault (Text × Text) :=
  match "---".toList.isPrefixOf? (text.dropWhile fun c => c = '\uFEFF') with
  | none => .error .missingOpening
  | some rest =>
      match splitAtFirst? "\n---".toList (skipLineEnd rest) with
      | none => .error .missingClosing
      | some (front, behind) => .ok (trimEnd (fun c => c = '\r') front, skipLineEnd behind)

def text? : Toml.Value → Option Text
  | .string text => some text
  | _ => none

def number? : Toml.Value → Option Nat
  | .integer number => number.toNat?
  | _ => none

def optional {Result : Type} (decode : Toml.Value → Option Result) (key : String)
    (members : List (Text × Toml.Value)) : Option (Option Result) :=
  match members.lookup key.toList with
  | none => some none
  | some value => (decode value).map some

/-- An expected finding is a table, or an array of the same values in order. -/
def expectedFinding? : Toml.Value → Option ExpectedFinding
  | .table members => do
      let contains ← (members.lookup "contains".toList).bind text?
      let line ← optional number? "line" members
      let parent ← optional number? "parent_task_line" members
      return ⟨contains, line, parent⟩
  | .array [first] => do
      return ⟨← text? first, none, none⟩
  | .array [first, second] => do
      return ⟨← text? first, some (← number? second), none⟩
  | .array (first :: second :: third :: _) => do
      return ⟨← text? first, some (← number? second), some (← number? third)⟩
  | _ => none

def expectedFindings? : Toml.Value → Option (List ExpectedFinding)
  | .array items => items.mapM expectedFinding?
  | _ => none

def Config.ofTable? (members : List (Text × Toml.Value)) : Option Config := do
  let description ← optional text? "description" members
  let opening ← optional text? "start_delimiter" members
  let closing ← optional text? "end_delimiter" members
  let rejection ← optional text? "expect_parse_error" members
  let operations ← optional number? "expect_operations" members
  let findings ← optional expectedFindings? "expect_validation_errors" members
  return {
    description
    delimiters :=
      ⟨opening.getD Delimiters.standard.opening, closing.getD Delimiters.standard.closing⟩
    rejection
    operations
    findings }

def Config.ofToml? (front : Text) : Option Config := (Toml.read front).bind Config.ofTable?

end Fixture

structure Fixture where
  config : Fixture.Config
  source : Text
deriving DecidableEq, Repr

/-- A fixture whose description is read with the given decoder. -/
def Fixture.readWith (decode : Text → Option Fixture.Config) (text : Text) :
    Except Fixture.Fault Fixture :=
  match Fixture.split text with
  | .error fault => .error fault
  | .ok (front, source) =>
      match decode front with
      | none => .error .invalidConfig
      | some config => .ok ⟨config, source⟩

def Fixture.read (text : Text) : Except Fixture.Fault Fixture :=
  Fixture.readWith Fixture.Config.ofToml? text

end ChangeScript

/-
What is wrong with operations that can be read.

Every operation is checked against the rules of its kind, in a fixed order:
required attributes, attribute values, content.  A tasks block inside another
is reported before what is found inside it.
-/

import ChangeScript.Operation

set_option autoImplicit false

namespace ChangeScript

inductive Violation where
  | missingFile
  | invalidCount
  | invalidAppend
  | emptyRun
  | emptyPattern
  | emptyTo
  | nestedTasks
deriving DecidableEq, Repr

namespace Violation

def message : Violation → Text
  | .missingFile => "Missing required attribute 'file'".toList
  | .invalidCount => "Invalid value for 'count': must be positive integer or 'all'".toList
  | .invalidAppend => "Invalid value for 'append': must be 'true' or 'false'".toList
  | .emptyRun => "Empty content not allowed for RUN operation".toList
  | .emptyPattern => "Empty search pattern not allowed".toList
  | .emptyTo => "Empty TO pattern not allowed".toList
  | .nestedTasks => "TASKS cannot contain other TASKS operations".toList

def field : Violation → Option Text
  | .invalidCount => some "count".toList
  | .invalidAppend => some "append".toList
  | .missingFile | .emptyRun | .emptyPattern | .emptyTo | .nestedTasks => none

end Violation

/-- A problem with the operation opened on `line`, and the line of the tasks
block around it. -/
structure Finding where
  line : Nat
  kind : Kind
  message : Text
  field : Option Text
  parent : Option Nat
deriving DecidableEq, Repr

def Violation.report (violation : Violation) (line : Nat) (kind : Kind) (parent : Option Nat) :
    Finding :=
  ⟨line, kind, violation.message, violation.field, parent⟩

def writeViolations (header : Header) : List Violation :=
  (if header.file?.isNone then [.missingFile] else []) ++
    (if header.append?.isSome ∧ header.appendMode?.isNone then [.invalidAppend] else [])

def runViolations (content : Text) : List Violation :=
  if content = [] then [.emptyRun] else []

def searchViolations (header : Header) (pattern : Text) (upTo : Option Text) : List Violation :=
  (if header.file?.isNone then [.missingFile] else []) ++
    (if header.count?.any fun value => (Count.ofText? value).isNone then [.invalidCount] else []) ++
    (if pattern = [] then [.emptyPattern] else []) ++
    (if upTo = some [] then [.emptyTo] else [])

mutual
def Operation.findings (parent : Option Nat) : Operation → List Finding
  | .write header _ =>
      (writeViolations header).map fun violation => violation.report header.line .write parent
  | .run header content =>
      (runViolations content).map fun violation => violation.report header.line .run parent
  | .search header pattern upTo _ =>
      (searchViolations header pattern upTo).map fun violation =>
        violation.report header.line .search parent
  | .tasks header operations =>
      (if parent.isSome then [Violation.nestedTasks.report header.line .tasks none] else []) ++
        Operation.findingsAll (some header.line) operations

def Operation.findingsAll (parent : Option Nat) : List Operation → List Finding
  | [] => []
  | first :: rest => first.findings parent ++ Operation.findingsAll parent rest
end

def validate (operations : List Operation) : List Finding :=
  Operation.findingsAll none operations

end ChangeScript

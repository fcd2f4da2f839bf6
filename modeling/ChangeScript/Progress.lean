/-
Reading a change script line by line.

Between two lines the reader holds at most one open tasks block, at most one
open operation that collects lines, and the operations that are complete.  A
line changes what is held or is a fault.  The script is accepted when nothing
is open after its last line.
-/

import ChangeScript.LineClass
import ChangeScript.Lines
import ChangeScript.Operation

set_option autoImplicit false

namespace ChangeScript

open Text

inductive Draft where
  | write (content : List Text)
  | run (content : List Text)
  | searchPattern (pattern : List Text)
  | searchTo (pattern upTo : List Text)
  | searchReplacement (pattern : List Text) (upTo : Option (List Text)) (replacement : List Text)
deriving DecidableEq, Repr

namespace Draft

def kind : Draft → Kind
  | .write _ => .write
  | .run _ => .run
  | .searchPattern _ | .searchTo _ _ | .searchReplacement _ _ _ => .search

def phase : Draft → Phase
  | .write _ => .write
  | .run _ => .run
  | .searchPattern _ => .searchPattern
  | .searchTo _ _ => .searchTo
  | .searchReplacement _ _ _ => .searchReplacement

def push (line : Text) : Draft → Draft
  | .write content => .write (content ++ [line])
  | .run content => .run (content ++ [line])
  | .searchPattern pattern => .searchPattern (pattern ++ [line])
  | .searchTo pattern upTo => .searchTo pattern (upTo ++ [line])
  | .searchReplacement pattern upTo replacement =>
      .searchReplacement pattern upTo (replacement ++ [line])

def enterTo : Draft → Draft
  | .searchPattern pattern => .searchTo pattern []
  | draft => draft

def enterReplacement : Draft → Draft
  | .searchPattern pattern => .searchReplacement pattern none []
  | .searchTo pattern upTo => .searchReplacement pattern (some upTo) []
  | draft => draft

def complete (header : Header) : Draft → Operation
  | .write content => .write header (joinFeeds content)
  | .run content => .run header (joinFeeds content)
  | .searchPattern pattern => .search header (joinFeeds pattern) none []
  | .searchTo pattern upTo => .search header (joinFeeds pattern) (some (joinFeeds upTo)) []
  | .searchReplacement pattern upTo replacement =>
      .search header (joinFeeds pattern) (upTo.map joinFeeds) (joinFeeds replacement)

end Draft

structure OpenOperation where
  header : Header
  draft : Draft
deriving DecidableEq, Repr

structure OpenTasks where
  header : Header
  operations : List Operation
deriving Repr

structure Progress where
  complete : List Operation
  tasks : Option OpenTasks
  operation : Option OpenOperation
deriving Repr

namespace Progress

def start : Progress := ⟨[], none, none⟩

def phase (progress : Progress) : Phase :=
  match progress.operation, progress.tasks with
  | some inner, _ => inner.draft.phase
  | none, some _ => .tasks
  | none, none => .idle

def openKind (progress : Progress) (number : Nat) (kind : Kind) (arguments : Text) :
    Except Fault Progress :=
  if kind = .tasks ∧ progress.tasks.isSome then .error .nestedTasks
  else if progress.phase.collects then .error (.invalidMarker (.opens kind) progress.phase)
  else
    match Attribute.readList arguments with
    | .error fault => .error (.attribute fault)
    | .ok attributes =>
        let header : Header := ⟨number, attributes⟩
        match kind with
        | .tasks => .ok { progress with tasks := some ⟨header, []⟩ }
        | .write => .ok { progress with operation := some ⟨header, .write []⟩ }
        | .run => .ok { progress with operation := some ⟨header, .run []⟩ }
        | .search => .ok { progress with operation := some ⟨header, .searchPattern []⟩ }

def require (progress : Progress) (keyword : Keyword) : Except Fault Unit :=
  if progress.phase = .idle then .error (.noActiveOperation keyword)
  else if progress.phase.admits keyword then .ok ()
  else .error (.invalidMarker keyword progress.phase)

def mapDraft (change : Draft → Draft) (progress : Progress) : Progress :=
  { progress with
    operation := progress.operation.map fun inner => { inner with draft := change inner.draft } }

def enter (progress : Progress) (keyword : Keyword) (change : Draft → Draft) :
    Except Fault Progress :=
  match progress.require keyword with
  | .error fault => .error fault
  | .ok () => .ok (progress.mapDraft change)

def closeInnermost (progress : Progress) : Progress :=
  match progress.operation, progress.tasks with
  | some inner, some group =>
      { progress with
        operation := none
        tasks := some
          { group with operations := group.operations ++ [inner.draft.complete inner.header] } }
  | some inner, none =>
      { progress with
        operation := none
        complete := progress.complete ++ [inner.draft.complete inner.header] }
  | none, some group =>
      { progress with
        tasks := none
        complete := progress.complete ++ [.tasks group.header group.operations] }
  | none, none => progress

def close (progress : Progress) (arguments : Text) : Except Fault Progress :=
  if progress.phase ≠ .idle ∧ arguments ≠ [] then .error .closeWithArguments
  else
    match progress.require .close with
    | .error fault => .error fault
    | .ok () => .ok progress.closeInnermost

def follow (progress : Progress) (number : Nat) (marker : Marker) : Except Fault Progress :=
  match Keyword.ofName? marker.name with
  | some (.opens kind) => progress.openKind number kind marker.arguments
  | some .upTo => progress.enter .upTo Draft.enterTo
  | some .replace => progress.enter .replace Draft.enterReplacement
  | some .close => progress.close marker.arguments
  | none => .error (.unknownOperation marker.name)

def step (delimiters : Delimiters) (progress : Progress) (number : Nat) (line : Text) :
    Except Fault Progress :=
  match LineClass.ofLine delimiters progress.phase line with
  | .error fault => .error fault
  | .ok .content => .ok (progress.mapDraft (Draft.push line))
  | .ok (.marker found) => progress.follow number found

def advance (delimiters : Delimiters) (number : Nat) :
    List Text → Progress → Except Rejection Progress
  | [], progress => .ok progress
  | line :: rest, progress =>
      match progress.step delimiters number line with
      | .error fault => .error ⟨number, fault⟩
      | .ok next => advance delimiters (number + 1) rest next

/-- The complete operations, if nothing is open.  An open tasks block is blamed
before an operation inside it. -/
def finish (progress : Progress) : Except Rejection (List Operation) :=
  match progress.tasks, progress.operation with
  | some group, _ => .error ⟨group.header.line, .unterminated .tasks⟩
  | none, some inner => .error ⟨inner.header.line, .unterminated inner.draft.kind⟩
  | none, none => .ok progress.complete

end Progress

def parseLines (delimiters : Delimiters) (lines : List Text) :
    Except Rejection (List Operation) :=
  match Progress.start.advance delimiters 1 lines with
  | .error rejection => .error rejection
  | .ok progress => progress.finish

def parse (delimiters : Delimiters) (text : Text) : Except Rejection (List Operation) :=
  parseLines delimiters (linesOf text)

end ChangeScript

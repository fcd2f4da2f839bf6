/-
What the program does with its arguments and the file or folder that they name.
-/

import ChangeScript.Dump
import ChangeScript.Encoding
import ChangeScript.Frame
import ChangeScript.Invocation
import ChangeScript.Printer
import ChangeScript.Suite.Discovery
import ChangeScript.Suite.Report

set_option autoImplicit false

namespace ChangeScript

open Text

structure Outcome where
  code : Nat
  output : Text
  messages : Text
deriving DecidableEq, Repr

namespace Command

def withText (path : Text) (found : Except Entry.Fault Entry) (use : Text → Outcome) : Outcome :=
  let refuse := fun fault : Entry.Fault =>
    Outcome.mk 1 [] ("error: cannot read '".toList ++ path ++ "': ".toList ++ fault.message ++
      ['\n'])
  match found with
  | .error fault => refuse fault
  | .ok entry =>
      match entry.text with
      | .error fault => refuse fault
      | .ok text => use text

def reject (coloured : Bool) (path text : Text) (rejection : Rejection) : Outcome :=
  ⟨1, [], Frame.draw coloured path text (rejection.diagnostic text)⟩

def listingText (listing : Listing) (result : Review) : Text :=
  match listing with
  | .none => []
  | .json => result.encode.indented 0 ++ ['\n']
  | .dump => Dump.listing result.operations ++ ['\n']

def verdictText (path : Text) (findings : List Finding) : Text :=
  if findings = [] then "ok: ".toList ++ path ++ " parsed successfully\n".toList
  else path ++ ": ".toList ++ ofNat findings.length ++ " validation error(s)\n".toList

def check (coloured : Bool) (path : Text) (listing : Listing) (delimiters : Delimiters)
    (text : Text) : Outcome :=
  match review delimiters text with
  | .error rejection => reject coloured path text rejection
  | .ok result =>
      { code := if result.findings = [] then 0 else 1
        output := listingText listing result
        messages :=
          (result.findings.flatMap fun finding =>
            Frame.draw coloured path text (finding.diagnostic text)) ++
          verdictText path result.findings }

def format (coloured : Bool) (path : Text) (delimiters : Delimiters) (text : Text) : Outcome :=
  match parse delimiters text with
  | .error rejection => reject coloured path text rejection
  | .ok operations => ⟨0, print delimiters operations ++ ['\n'], []⟩

def emptyText (path : Text) : Text :=
  "no ".toList ++ Suite.ending ++ " files found in ".toList ++ path ++ ['\n']

def listCategories (path : Text) (found : Except Entry.Fault Entry) : Outcome :=
  match found with
  | .ok (.file _) => ⟨0, [], "(single file, no categories)\n".toList⟩
  | _ =>
      let categories := Suite.discover found
      if categories.isEmpty then ⟨0, [], emptyText path⟩
      else ⟨0, [], Suite.listText categories⟩

def testCategories {Item : Type} (coloured : Bool) (attempt : Item → Suite.Trial)
    (requests : List Text) (categories : List (Suite.Category Item)) : Outcome :=
  let warnings := (Suite.unmatched requests categories).flatMap (Suite.warningText categories)
  let results := Suite.run attempt requests categories
  { code := Suite.suiteCode results
    output := []
    messages :=
      warnings ++
      if results = [] then "no matching categories found\n".toList
      else Suite.suiteText coloured results }

def test (coloured : Bool) (path : Text) (requests : List Text)
    (found : Except Entry.Fault Entry) : Outcome :=
  match found with
  | .ok (.file bytes) =>
      let trials := [Suite.attempt path (.file bytes)]
      ⟨Suite.exitCode trials, [],
        trials.flatMap (Suite.trialText coloured) ++ Suite.closingText coloured trials⟩
  | _ =>
      let categories := Suite.discover found
      if categories.isEmpty then ⟨1, [], emptyText path⟩
      else testCategories coloured (Suite.Found.attempt path) requests categories

end Command

def Invocation.run (terminal : Bool) (invocation : Invocation)
    (found : Except Entry.Fault Entry) : Outcome :=
  let coloured := terminal && !invocation.uncoloured
  match invocation.job with
  | .check path listing delimiters =>
      Command.withText path found (Command.check coloured path listing delimiters)
  | .format path delimiters =>
      Command.withText path found (Command.format coloured path delimiters)
  | .test path requests listOnly =>
      if listOnly then Command.listCategories path found
      else Command.test coloured path requests found

def usage : Text :=
  endFeeds (["Usage: csl [OPTIONS] <COMMAND>".toList, [],
    "Commands:".toList,
    "  check  Parse and validate a CSL document".toList,
    "  fmt    Print a CSL document in normalized form".toList,
    "  test   Run .test.csl fixture files".toList])

def Invocation.Answer.outcome : Invocation.Answer → Outcome
  | .version => ⟨0, "csl 0.1.0\n".toList, []⟩
  | .help => ⟨0, usage, []⟩
  | .misuse => ⟨2, [], usage⟩

def runProgram (terminal : Bool) (arguments : List Text)
    (lookup : Text → Except Entry.Fault Entry) : Outcome :=
  match Invocation.read arguments with
  | .error answer => answer.outcome
  | .ok invocation => invocation.run terminal (lookup invocation.job.path)

end ChangeScript

/-
The program: it reads its arguments and what they name, and writes the outcome.
-/

import ChangeScript.Command

set_option autoImplicit false

namespace ChangeScript

namespace Program

def faultOf : IO.Error → Entry.Fault
  | .permissionDenied .. => .denied
  | .inappropriateType .. => .notFolder
  | _ => .notFound

def isFolder (path : String) : IO Bool := do
  try
    (← IO.FS.realPath path).isDir
  catch _ => return false

/-- Load a file, or a folder with all that it holds.  What cannot be read in a
folder is left out. -/
partial def load (path : String) : IO Entry := do
  if ← isFolder path then
    let mut children := []
    for child in ← (← IO.FS.realPath path).readDir do
      try
        children := (child.fileName.toList, ← load child.path.toString) :: children
      catch _ => pure ()
    return .folder children
  else
    return .file (← IO.FS.readBinFile path)

def lookup (path : Text) : IO (Except Entry.Fault Entry) := do
  try
    return .ok (← load (String.ofList path))
  catch problem => return .error (faultOf problem)

def showsColours : IO Bool := do
  match ← IO.getEnv "TERM", ← IO.getEnv "NO_COLOR" with
  | some terminal, none => return terminal ≠ "dumb"
  | _, _ => return false

end Program

end ChangeScript

open ChangeScript in
def main (arguments : List String) : IO UInt32 := do
  let outcome ← match Invocation.read (arguments.map String.toList) with
    | .error answer => pure answer.outcome
    | .ok invocation => do
        let found ← Program.lookup invocation.job.path
        pure (invocation.run (← Program.showsColours) found)
  IO.print (String.ofList outcome.output)
  IO.eprint (String.ofList outcome.messages)
  return outcome.code.toUInt32

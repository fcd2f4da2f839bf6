/-
What a line means in a phase.

While lines are collected, a line that looks like a marker but has no meaning
as one is ordinary content.  Elsewhere such a line is a fault.
-/

import ChangeScript.Fault
import ChangeScript.Marker

set_option autoImplicit false

namespace ChangeScript

inductive LineClass where
  | content
  | marker (found : Marker)
deriving DecidableEq, Repr

namespace LineClass

/-- Classify a line that begins like a marker and is none as a whole. -/
def ofFragment (delimiters : Delimiters) (phase : Phase) (line : Text) : Except Fault LineClass :=
  let rest := if phase.collects then .ok .content else .error .malformedMarker
  match Marker.leading? delimiters line with
  | some (found, _) => if phase.accepts found.name then .error .contentOnMarkerLine else rest
  | none => rest

def ofLine (delimiters : Delimiters) (phase : Phase) (line : Text) : Except Fault LineClass :=
  if Marker.isCandidate delimiters line then
    match Marker.ofLine? delimiters line with
    | some found =>
        if phase.collects && (Keyword.ofName? found.name).isNone then .ok .content
        else .ok (.marker found)
    | none => ofFragment delimiters phase line
  else .ok .content

end LineClass

end ChangeScript

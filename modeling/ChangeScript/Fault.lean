/-
Why a change script is refused.

Reading stops at the first fault.  A rejection names the line that it blames,
which for an operation that is never closed is the line of its opening marker.
-/

import ChangeScript.Attribute
import ChangeScript.Phase

set_option autoImplicit false

namespace ChangeScript

inductive Fault where
  | malformedMarker
  | contentOnMarkerLine
  | unknownOperation (name : Text)
  | invalidMarker (keyword : Keyword) (phase : Phase)
  | noActiveOperation (keyword : Keyword)
  | closeWithArguments
  | nestedTasks
  | unterminated (kind : Kind)
  | attribute (fault : Attribute.Fault)
deriving DecidableEq, Repr

namespace Fault

def message : Fault → Text
  | .malformedMarker => "Malformed marker".toList
  | .contentOnMarkerLine => "Content not allowed on marker line".toList
  | .unknownOperation name => "Unknown operation: ".toList ++ name
  | .invalidMarker keyword phase =>
      keyword.name ++ " marker not valid in ".toList ++ phase.title ++ " operation".toList
  | .noActiveOperation keyword => keyword.name ++ " marker without active operation".toList
  | .closeWithArguments => "END marker cannot have attributes".toList
  | .nestedTasks => "TASKS cannot be nested".toList
  | .unterminated kind => "Unterminated ".toList ++ kind.name ++ " operation".toList
  | .attribute fault => fault.message

end Fault

/-- A fault and the number of the line it is blamed on, counted from one. -/
structure Rejection where
  line : Nat
  fault : Fault
deriving DecidableEq, Repr

def Rejection.message (rejection : Rejection) : Text :=
  "Line ".toList ++ Text.ofNat rejection.line ++ ": ".toList ++ rejection.fault.message

end ChangeScript

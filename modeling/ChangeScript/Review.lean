/-
A script that was read, with everything that is wrong with it.
-/

import ChangeScript.Finding
import ChangeScript.Progress

set_option autoImplicit false

namespace ChangeScript

structure Review where
  operations : List Operation
  findings : List Finding
deriving Repr

/-- Read a script and check its operations.  Only a fault in reading refuses it. -/
def review (delimiters : Delimiters) (text : Text) : Except Rejection Review :=
  match parse delimiters text with
  | .error rejection => .error rejection
  | .ok operations => .ok ⟨operations, validate operations⟩

end ChangeScript

/-
Rejections and findings explained on the lines of a text.
-/

import ChangeScript.Lines
import ChangeScript.Review

set_option autoImplicit false

namespace ChangeScript

structure Label where
  span : Span
  message : Text
deriving DecidableEq, Repr

structure Diagnostic where
  message : Text
  label : Label
  notes : List Text
deriving DecidableEq, Repr

def Rejection.diagnostic (text : Text) (rejection : Rejection) : Diagnostic :=
  { message := rejection.fault.message
    label := ⟨lineSpan text rejection.line, []⟩
    notes := [] }

def Finding.diagnostic (text : Text) (finding : Finding) : Diagnostic :=
  { message := finding.message
    label :=
      ⟨lineSpan text finding.line,
        "in this ".toList ++ finding.kind.name ++ " operation".toList⟩
    notes :=
      match finding.parent with
      | none => []
      | some line => ["inside the TASKS block opened on line ".toList ++ Text.ofNat line] }

def diagnose (delimiters : Delimiters) (text : Text) : List Diagnostic :=
  match review delimiters text with
  | .error rejection => [rejection.diagnostic text]
  | .ok result => result.findings.map (Finding.diagnostic text)

end ChangeScript

/-
Reviews as JSON.

An operation is an object tagged with its kind.  Its attributes are an object in
the order of their declaration.  Values that are absent are left out.
-/

import ChangeScript.Json
import ChangeScript.Review

set_option autoImplicit false

namespace ChangeScript

namespace Json

def member (name : String) (value : Json) : Text × Json := (name.toList, value)

def member? (name : String) : Option Json → List (Text × Json)
  | none => []
  | some value => [member name value]

end Json

open Json (member member?)

def Header.members (kind : Kind) (header : Header) : List (Text × Json) :=
  [member "type" (.string kind.name), member "line" (.number header.line),
    member "attributes"
      (.object (header.attributes.map fun entry => (entry.name, .string entry.value)))]

mutual
def Operation.encode : Operation → Json
  | .write header content =>
      .object (header.members .write ++ [member "content" (.string content)])
  | .run header content =>
      .object (header.members .run ++ [member "content" (.string content)])
  | .search header pattern upTo replacement =>
      .object (header.members .search ++ member "pattern" (.string pattern) ::
        member? "to" (upTo.map .string) ++ [member "replacement" (.string replacement)])
  | .tasks header operations =>
      .object (header.members .tasks ++
        [member "operations" (.array (Operation.encodeAll operations))])

def Operation.encodeAll : List Operation → List Json
  | [] => []
  | first :: rest => first.encode :: Operation.encodeAll rest
end

def Finding.encode (finding : Finding) : Json :=
  .object ([member "line" (.number finding.line), member "operation" (.string finding.kind.name),
    member "message" (.string finding.message)] ++
    member? "field" (finding.field.map .string) ++
    member? "parentTaskLine" (finding.parent.map .number))

def Review.encode (result : Review) : Json :=
  .object [member "ast" (.array (Operation.encodeAll result.operations)),
    member "validationErrors" (.array (result.findings.map Finding.encode))]

end ChangeScript

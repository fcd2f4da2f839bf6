/-
Reviews read back from JSON.

A decoder looks values up by their keys, takes the kind of an operation from its tag,
and takes a key that is left out for an absent value.  It gives back every review from
its text on one line, so no two reviews are written alike.
-/

import ChangeScript.Encoding
import ChangeScript.Proofs.JsonText

set_option autoImplicit false

namespace ChangeScript

namespace Json

def string? : Json → Option Text
  | .string value => some value
  | _ => none

def number? : Json → Option Nat
  | .number value => some value
  | _ => none

def array? : Json → Option (List Json)
  | .array items => some items
  | _ => none

def object? : Json → Option (List (Text × Json))
  | .object members => some members
  | _ => none

def required {Result : Type} (decode : Json → Option Result) (key : String)
    (members : List (Text × Json)) : Option Result :=
  (members.lookup key.toList).bind decode

def optional {Result : Type} (decode : Json → Option Result) (key : String)
    (members : List (Text × Json)) : Option (Option Result) :=
  match members.lookup key.toList with
  | none => some none
  | some value => (decode value).map some

end Json

open Json (member member? required optional)

def Attribute.decode? (entry : Text × Json) : Option Attribute :=
  entry.2.string?.map fun value => ⟨entry.1, value⟩

def Header.decode? (members : List (Text × Json)) : Option Header := do
  let line ← required Json.number? "line" members
  let entries ← required Json.object? "attributes" members
  let attributes ← entries.mapM Attribute.decode?
  return ⟨line, attributes⟩

def Kind.decode? (value : Json) : Option Kind := value.string?.bind Kind.ofName?

def Operation.assemble? (kind : Kind) (members : List (Text × Json))
    (inside : Option (List Operation)) : Option Operation := do
  let header ← Header.decode? members
  match kind with
  | .write => return .write header (← required Json.string? "content" members)
  | .run => return .run header (← required Json.string? "content" members)
  | .search =>
      let pattern ← required Json.string? "pattern" members
      let upTo ← optional Json.string? "to" members
      let replacement ← required Json.string? "replacement" members
      return .search header pattern upTo replacement
  | .tasks => return .tasks header (← inside)

mutual
def Operation.decode? : Json → Option Operation
  | .object members =>
      (required Kind.decode? "type" members).bind fun kind =>
        Operation.assemble? kind members (Operation.inside? members)
  | _ => none

/-- The operations under the key for them, whatever keys stand before it. -/
def Operation.inside? : List (Text × Json) → Option (List Operation)
  | [] => none
  | (key, value) :: rest =>
      if key = "operations".toList then Operation.decodeArray? value else Operation.inside? rest

def Operation.decodeArray? : Json → Option (List Operation)
  | .array items => Operation.decodeAll? items
  | _ => none

def Operation.decodeAll? : List Json → Option (List Operation)
  | [] => some []
  | first :: rest =>
      (Operation.decode? first).bind fun operation =>
        (Operation.decodeAll? rest).map fun operations => operation :: operations
end

def Finding.decode? (value : Json) : Option Finding := do
  let members ← value.object?
  let line ← required Json.number? "line" members
  let kind ← required Kind.decode? "operation" members
  let message ← required Json.string? "message" members
  let field ← optional Json.string? "field" members
  let parent ← optional Json.number? "parentTaskLine" members
  return ⟨line, kind, message, field, parent⟩

def Review.decode? (value : Json) : Option Review := do
  let members ← value.object?
  let operations ← required Operation.decodeArray? "ast" members
  let items ← required Json.array? "validationErrors" members
  let findings ← items.mapM Finding.decode?
  return ⟨operations, findings⟩

/-- The review that a JSON text tells. -/
def Review.ofText? (text : Text) : Option Review := (Json.ofText? text).bind Review.decode?

/-! ### Decoding undoes encoding -/

private theorem mapM_map_of_forall {α β : Type} {encode : α → β} {decode : β → Option α}
    (back : ∀ a, decode (encode a) = some a) (items : List α) :
    (items.map encode).mapM decode = some items := by
  induction items with
  | nil => rfl
  | cons item items ih =>
      rw [List.map_cons, List.mapM_cons, back, ih]
      rfl

theorem Kind.decode?_name (kind : Kind) : Kind.decode? (.string kind.name) = some kind :=
  Kind.ofName?_name kind

theorem Attribute.mapM_decode? (entries : List Attribute) :
    (entries.map fun entry => (entry.name, Json.string entry.value)).mapM Attribute.decode? =
      some entries := by
  apply mapM_map_of_forall
  intro entry
  rfl

theorem Header.decode?_members (kind : Kind) (header : Header) (rest : List (Text × Json)) :
    Header.decode? (header.members kind ++ rest) = some header := by
  have line : required Json.number? "line" (header.members kind ++ rest) = some header.line := rfl
  have entries : required Json.object? "attributes" (header.members kind ++ rest) =
    some (header.attributes.map fun entry => (entry.name, Json.string entry.value)) := rfl
  simp only [Header.decode?, line, entries, Attribute.mapM_decode?, Option.bind_eq_bind,
    Option.bind_some]
  rfl

theorem Operation.decode?_object (kind : Kind) (header : Header) (rest : List (Text × Json)) :
    Operation.decode? (.object (header.members kind ++ rest)) =
      Operation.assemble? kind (header.members kind ++ rest)
        (Operation.inside? (header.members kind ++ rest)) := by
  have tag : required Kind.decode? "type" (header.members kind ++ rest) = some kind :=
    Kind.decode?_name kind
  rw [Operation.decode?, tag, Option.bind_some]

mutual
theorem Operation.decode?_encode : (operation : Operation) →
    Operation.decode? operation.encode = some operation
  | .write header content => by
      rw [encode, decode?_object, assemble?, Header.decode?_members]
      rfl
  | .run header content => by
      rw [encode, decode?_object, assemble?, Header.decode?_members]
      rfl
  | .search header pattern upTo replacement => by
      rw [encode, List.append_assoc, decode?_object, assemble?, Header.decode?_members]
      cases upTo <;> rfl
  | .tasks header operations => by
      have inside : inside? (header.members .tasks ++
          [Json.member "operations" (.array (encodeAll operations))]) =
          decodeAll? (encodeAll operations) := rfl
      rw [encode, decode?_object, assemble?, Header.decode?_members, inside,
        decodeAll?_encodeAll operations]
      rfl

theorem Operation.decodeAll?_encodeAll : (operations : List Operation) →
    Operation.decodeAll? (Operation.encodeAll operations) = some operations
  | [] => rfl
  | first :: rest => by
      rw [encodeAll, decodeAll?, decode?_encode first, decodeAll?_encodeAll rest]
      rfl
end

def Finding.members (finding : Finding) : List (Text × Json) :=
  [member "line" (.number finding.line), member "operation" (.string finding.kind.name),
    member "message" (.string finding.message)] ++
    member? "field" (finding.field.map .string) ++
    member? "parentTaskLine" (finding.parent.map .number)

theorem Finding.optional_members (finding : Finding) :
    optional Json.string? "field" finding.members = some finding.field ∧
      optional Json.number? "parentTaskLine" finding.members = some finding.parent := by
  obtain ⟨line, kind, message, field, parent⟩ := finding
  cases field with
  | none => cases parent <;> exact ⟨rfl, rfl⟩
  | some field => cases parent <;> exact ⟨rfl, rfl⟩

theorem Finding.decode?_encode (finding : Finding) :
    Finding.decode? finding.encode = some finding := by
  have members : finding.encode.object? = some finding.members := rfl
  have line : required Json.number? "line" finding.members = some finding.line := rfl
  have kind : required Kind.decode? "operation" finding.members = some finding.kind :=
    Kind.decode?_name finding.kind
  have message : required Json.string? "message" finding.members = some finding.message := rfl
  obtain ⟨field, parent⟩ := finding.optional_members
  simp only [decode?, members, line, kind, message, field, parent, Option.bind_eq_bind,
    Option.bind_some]
  rfl

def Review.members (result : Review) : List (Text × Json) :=
  [member "ast" (.array (Operation.encodeAll result.operations)),
    member "validationErrors" (.array (result.findings.map Finding.encode))]

theorem Review.decode?_encode (result : Review) : Review.decode? result.encode = some result := by
  have members : result.encode.object? = some result.members := rfl
  have operations : required Operation.decodeArray? "ast" result.members =
      some result.operations := Operation.decodeAll?_encodeAll result.operations
  have items : required Json.array? "validationErrors" result.members =
      some (result.findings.map Finding.encode) := rfl
  have findings := mapM_map_of_forall Finding.decode?_encode result.findings
  simp only [decode?, members, operations, items, findings, Option.bind_eq_bind,
    Option.bind_some]
  rfl

/-- No two reviews have the same text, and a review can be told from its text. -/
theorem compact_encode_lossless (left right : Review) :
    (left.encode.compact = right.encode.compact ↔ left = right) ∧
      Review.ofText? left.encode.compact = some left := by
  have told (result : Review) : Review.ofText? result.encode.compact = some result := by
    rw [Review.ofText?, Json.ofText?_compact, Option.bind_some, Review.decode?_encode]
  refine ⟨⟨fun same => ?_, fun same => by rw [same]⟩, told left⟩
  apply Option.some.inj
  rw [← told left, same, told right]

end ChangeScript

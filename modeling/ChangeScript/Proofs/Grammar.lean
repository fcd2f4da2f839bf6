/-
The grammar of change scripts.

A script is a sequence of noise lines and blocks.  A leaf block is an opening
marker, lines that are content where they stand, and a closing marker, with
dividing markers inside a search.  A tasks block encloses a sequence of noise
lines and leaf blocks.  Each rule gives the operation that its lines denote.

The grammar speaks of whole lines and their numbers only.  It knows no reader
and no state that lines could change.
-/

import ChangeScript.LineClass
import ChangeScript.Operation

set_option autoImplicit false

namespace ChangeScript.Grammar

open Text

variable {delimiters : Delimiters}

/-- A line that does not begin like a marker. -/
def Noise (delimiters : Delimiters) (line : Text) : Prop := ¬delimiters.opening <+: line

def Content (delimiters : Delimiters) (phase : Phase) (line : Text) : Prop :=
  LineClass.ofLine delimiters phase line = .ok .content

instance (phase : Phase) (line : Text) : Decidable (Content delimiters phase line) :=
  match classified : LineClass.ofLine delimiters phase line with
  | .ok .content => isTrue classified
  | .ok (.marker _) => isFalse fun content => nomatch classified.symm.trans content
  | .error _ => isFalse fun content => nomatch classified.symm.trans content

def Marks (delimiters : Delimiters) (keyword : Keyword) (arguments line : Text) : Prop :=
  Marker.ofLine? delimiters line = some ⟨keyword.name, arguments⟩

def Opens (delimiters : Delimiters) (kind : Kind) (attributes : List Attribute) (line : Text) :
    Prop :=
  ∃ arguments, Marks delimiters (.opens kind) arguments line ∧
    Attribute.readList arguments = .ok attributes

def Divides (delimiters : Delimiters) (keyword : Keyword) (line : Text) : Prop :=
  ∃ arguments, Marks delimiters keyword arguments line

def Closes (delimiters : Delimiters) (line : Text) : Prop := Marks delimiters .close [] line

/-- The lines of a block that holds no blocks, its opening marker having the
given number, and the operation they denote. -/
inductive Leaf (delimiters : Delimiters) (number : Nat) : List Text → Operation → Prop
  | write {opener closer : Text} {attributes : List Attribute} {content : List Text}
      (opens : Opens delimiters .write attributes opener)
      (inside : ∀ line ∈ content, Content delimiters .write line)
      (closes : Closes delimiters closer) :
      Leaf delimiters number (opener :: (content ++ [closer]))
        (.write ⟨number, attributes⟩ (joinFeeds content))
  | run {opener closer : Text} {attributes : List Attribute} {content : List Text}
      (opens : Opens delimiters .run attributes opener)
      (inside : ∀ line ∈ content, Content delimiters .run line)
      (closes : Closes delimiters closer) :
      Leaf delimiters number (opener :: (content ++ [closer]))
        (.run ⟨number, attributes⟩ (joinFeeds content))
  | search {opener closer : Text} {attributes : List Attribute} {pattern : List Text}
      (opens : Opens delimiters .search attributes opener)
      (inside : ∀ line ∈ pattern, Content delimiters .searchPattern line)
      (closes : Closes delimiters closer) :
      Leaf delimiters number (opener :: (pattern ++ [closer]))
        (.search ⟨number, attributes⟩ (joinFeeds pattern) none [])
  | replace {opener replacer closer : Text} {attributes : List Attribute}
      {pattern replacement : List Text}
      (opens : Opens delimiters .search attributes opener)
      (inside : ∀ line ∈ pattern, Content delimiters .searchPattern line)
      (replaces : Divides delimiters .replace replacer)
      (behind : ∀ line ∈ replacement, Content delimiters .searchReplacement line)
      (closes : Closes delimiters closer) :
      Leaf delimiters number (opener :: (pattern ++ replacer :: (replacement ++ [closer])))
        (.search ⟨number, attributes⟩ (joinFeeds pattern) none (joinFeeds replacement))
  | range {opener extender replacer closer : Text} {attributes : List Attribute}
      {pattern upTo replacement : List Text}
      (opens : Opens delimiters .search attributes opener)
      (inside : ∀ line ∈ pattern, Content delimiters .searchPattern line)
      (ranges : Divides delimiters .upTo extender)
      (between : ∀ line ∈ upTo, Content delimiters .searchTo line)
      (replaces : Divides delimiters .replace replacer)
      (behind : ∀ line ∈ replacement, Content delimiters .searchReplacement line)
      (closes : Closes delimiters closer) :
      Leaf delimiters number
        (opener :: (pattern ++ extender :: (upTo ++ replacer :: (replacement ++ [closer]))))
        (.search ⟨number, attributes⟩ (joinFeeds pattern) (some (joinFeeds upTo))
          (joinFeeds replacement))

/-- Lines from the given number on that are noise and blocks in any order. -/
inductive Sequence (delimiters : Delimiters) (Block : Nat → List Text → Operation → Prop) :
    Nat → List Text → List Operation → Prop
  | done (number : Nat) : Sequence delimiters Block number [] []
  | noise {number : Nat} {line : Text} {rest : List Text} {operations : List Operation}
      (outside : Noise delimiters line)
      (tail : Sequence delimiters Block (number + 1) rest operations) :
      Sequence delimiters Block number (line :: rest) operations
  | block {number : Nat} {lines rest : List Text} {operation : Operation}
      {operations : List Operation} (head : Block number lines operation)
      (tail : Sequence delimiters Block (number + lines.length) rest operations) :
      Sequence delimiters Block number (lines ++ rest) (operation :: operations)

inductive Block (delimiters : Delimiters) (number : Nat) : List Text → Operation → Prop
  | leaf {lines : List Text} {operation : Operation} (leaf : Leaf delimiters number lines operation) :
      Block delimiters number lines operation
  | tasks {opener closer : Text} {attributes : List Attribute} {inner : List Text}
      {operations : List Operation} (opens : Opens delimiters .tasks attributes opener)
      (inside : Sequence delimiters (Leaf delimiters) (number + 1) inner operations)
      (closes : Closes delimiters closer) :
      Block delimiters number (opener :: (inner ++ [closer]))
        (.tasks ⟨number, attributes⟩ operations)

/-- The lines of a whole script and the operations they denote. -/
def Document (delimiters : Delimiters) (lines : List Text) (operations : List Operation) : Prop :=
  Sequence delimiters (Block delimiters) 1 lines operations

structure Opened (delimiters : Delimiters) (number : Nat) (lines : List Text)
    (operation : Operation) : Prop where
  line_eq : operation.line = number
  marker : ∃ opener rest, lines = opener :: rest ∧
    Opens delimiters operation.kind operation.attributes opener

theorem Leaf.opened {number : Nat} {lines : List Text} {operation : Operation}
    (leaf : Leaf delimiters number lines operation) :
    Opened delimiters number lines operation := by
  cases leaf with
  | write opens _ _ => exact ⟨rfl, _, _, rfl, opens⟩
  | run opens _ _ => exact ⟨rfl, _, _, rfl, opens⟩
  | search opens _ _ => exact ⟨rfl, _, _, rfl, opens⟩
  | replace opens _ _ _ _ => exact ⟨rfl, _, _, rfl, opens⟩
  | range opens _ _ _ _ _ _ => exact ⟨rfl, _, _, rfl, opens⟩

theorem Leaf.kind_ne_tasks {number : Nat} {lines : List Text} {operation : Operation}
    (leaf : Leaf delimiters number lines operation) : operation.kind ≠ .tasks := by
  cases leaf <;> exact nofun

theorem Block.opened {number : Nat} {lines : List Text} {operation : Operation}
    (block : Block delimiters number lines operation) :
    Opened delimiters number lines operation := by
  cases block with
  | leaf leaf => exact leaf.opened
  | tasks opens _ _ => exact ⟨rfl, _, _, rfl, opens⟩

variable {Part : Nat → List Text → Operation → Prop}

theorem Sequence.append {number : Nat} {left right : List Text}
    {first second : List Operation} (head : Sequence delimiters Part number left first)
    (tail : Sequence delimiters Part (number + left.length) right second) :
    Sequence delimiters Part number (left ++ right) (first ++ second) := by
  induction head with
  | done number => exact tail
  | @noise number line rest operations outside _ ih =>
      apply Sequence.noise outside
      apply ih
      rw [List.length_cons] at tail
      rw [show number + 1 + rest.length = number + (rest.length + 1) by omega]
      exact tail
  | @block number lines rest operation operations block _ ih =>
      rw [List.append_assoc]
      apply Sequence.block block
      apply ih
      rw [List.length_append] at tail
      rw [Nat.add_assoc]
      exact tail

theorem Sequence.single {number : Nat} {lines : List Text} {operation : Operation}
    (block : Part number lines operation) :
    Sequence delimiters Part number lines [operation] := by
  have whole : Sequence delimiters Part number (lines ++ []) [operation] :=
    Sequence.block block (Sequence.done _)
  rw [List.append_nil] at whole
  exact whole

theorem Sequence.singleNoise {number : Nat} {line : Text} (outside : Noise delimiters line) :
    Sequence delimiters Part number [line] [] :=
  Sequence.noise outside (Sequence.done (number + 1))

theorem Sequence.weaken {Other : Nat → List Text → Operation → Prop} {number : Nat}
    {lines : List Text} {operations : List Operation}
    (whole : Sequence delimiters Part number lines operations)
    (each : ∀ {number lines operation}, Part number lines operation →
      Other number lines operation) :
    Sequence delimiters Other number lines operations := by
  induction whole with
  | done number => exact Sequence.done number
  | noise outside _ ih => exact Sequence.noise outside ih
  | block head _ ih => exact Sequence.block (each head) ih

theorem Sequence.restrict {good : Text → Prop} {number : Nat} {lines : List Text}
    {operations : List Operation} (whole : Sequence delimiters Part number lines operations)
    (each : ∀ line ∈ lines, good line) :
    Sequence delimiters
      (fun number lines operation => Part number lines operation ∧ ∀ line ∈ lines, good line)
      number lines operations := by
  induction whole with
  | done number => exact Sequence.done number
  | noise outside _ ih =>
      exact Sequence.noise outside (ih (List.forall_mem_cons.mp each).2)
  | block head _ ih =>
      obtain ⟨first, later⟩ := List.forall_mem_append.mp each
      exact Sequence.block ⟨head, first⟩ (ih later)

theorem Sequence.forall_of_block {good : Operation → Prop} {number : Nat} {lines : List Text}
    {operations : List Operation} (whole : Sequence delimiters Part number lines operations)
    (each : ∀ number lines operation, Part number lines operation → good operation) :
    ∀ operation ∈ operations, good operation := by
  induction whole with
  | done number => exact fun _ member => absurd member List.not_mem_nil
  | noise outside _ ih => exact ih
  | @block number lines rest operation operations head _ ih =>
      exact List.forall_mem_cons.mpr ⟨each number lines operation head, ih⟩

end ChangeScript.Grammar

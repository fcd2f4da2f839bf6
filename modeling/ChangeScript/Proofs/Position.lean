/-
Where the operations of a script stand.

Every operation that is read records the line of its own opening marker, so the
marker and its attributes can be found again in the text.  In document order
these lines ascend, through tasks blocks and out of them, and no tasks block
stands inside another.
-/

import ChangeScript.Proofs.Acceptance
import ChangeScript.Proofs.Tree

set_option autoImplicit false

namespace ChangeScript

open Text Grammar

variable {delimiters : Delimiters}

/-- An operation that records the line of its opening marker, among lines whose
first has the given number. -/
structure Operation.StandsIn (delimiters : Delimiters) (number : Nat) (lines : List Text)
    (operation : Operation) : Prop where
  begins : number ≤ operation.line
  marker : ∃ opener, lines[operation.line - number]? = some opener ∧
    Opens delimiters operation.kind operation.attributes opener

/-- Operations in document order that stand in lines, one below the other. -/
structure Anchored (delimiters : Delimiters) (number : Nat) (lines : List Text)
    (operations : List Operation) : Prop where
  ascend : (operations.map Operation.line).Pairwise (· < ·)
  stand : ∀ operation ∈ operations, operation.StandsIn delimiters number lines
  flat : ∀ operation ∈ operations, ∀ child ∈ operation.children, child.kind ≠ .tasks

namespace Operation.StandsIn

variable {number : Nat} {left right lines : List Text} {operation : Operation}

theorem ends (stands : operation.StandsIn delimiters number lines) :
    operation.line < number + lines.length := by
  obtain ⟨opener, found, _opens⟩ := stands.marker
  obtain ⟨inside, _same⟩ := List.getElem?_eq_some_iff.mp found
  have begins := stands.begins
  omega

theorem append_right (stands : operation.StandsIn delimiters number left) (right : List Text) :
    operation.StandsIn delimiters number (left ++ right) := by
  obtain ⟨opener, found, opens⟩ := stands.marker
  have begins := stands.begins
  have ends := stands.ends
  refine ⟨begins, opener, ?_, opens⟩
  rw [List.getElem?_append_left (by omega)]
  exact found

theorem append_left (stands : operation.StandsIn delimiters (number + left.length) right) :
    operation.StandsIn delimiters number (left ++ right) := by
  obtain ⟨opener, found, opens⟩ := stands.marker
  have begins := stands.begins
  refine ⟨by omega, opener, ?_, opens⟩
  rw [List.getElem?_append_right (by omega), Nat.sub_sub]
  exact found

end Operation.StandsIn

namespace Anchored

variable {number : Nat} {left right lines : List Text} {first second operations : List Operation}

theorem nil (number : Nat) (lines : List Text) : Anchored delimiters number lines [] :=
  { ascend := List.Pairwise.nil
    stand := fun _ member => absurd member List.not_mem_nil
    flat := fun _ member => absurd member List.not_mem_nil }

/-- Operations in two stretches of lines are in order, for those of the first
end before the second begins. -/
theorem append (head : Anchored delimiters number left first)
    (tail : Anchored delimiters (number + left.length) right second) :
    Anchored delimiters number (left ++ right) (first ++ second) := by
  refine ⟨?_, ?_, ?_⟩
  · rw [List.map_append, List.pairwise_append]
    refine ⟨head.ascend, tail.ascend, ?_⟩
    intro early earlier late later
    obtain ⟨above, memberAbove, rfl⟩ := List.mem_map.mp earlier
    obtain ⟨below, memberBelow, rfl⟩ := List.mem_map.mp later
    have ends := (head.stand above memberAbove).ends
    have begins := (tail.stand below memberBelow).begins
    omega
  · intro operation member
    rcases List.mem_append.mp member with inFirst | inSecond
    · exact (head.stand operation inFirst).append_right right
    · exact (tail.stand operation inSecond).append_left
  · intro operation member
    rcases List.mem_append.mp member with inFirst | inSecond
    · exact head.flat operation inFirst
    · exact tail.flat operation inSecond

theorem single {operation : Operation} (opened : Opened delimiters number lines operation)
    (flat : ∀ child ∈ operation.children, child.kind ≠ .tasks) :
    Anchored delimiters number lines [operation] := by
  obtain ⟨opener, rest, shape, opens⟩ := opened.marker
  refine ⟨List.pairwise_singleton _ _, ?_, ?_⟩
  · intro other member
    rw [List.mem_singleton.mp member]
    refine ⟨Nat.le_of_eq opened.line_eq.symm, opener, ?_, opens⟩
    rw [opened.line_eq, Nat.sub_self, shape]
    rfl
  · intro other member
    rw [List.mem_singleton.mp member]
    exact flat

theorem of_sequence {Part : Nat → List Text → Operation → Prop}
    (each : ∀ number lines operation, Part number lines operation →
      Anchored delimiters number lines operation.preorder)
    (whole : Sequence delimiters Part number lines operations) :
    Anchored delimiters number lines (Operation.preorderAll operations) := by
  induction whole with
  | done number => exact nil number []
  | @noise number line rest operations outside _ ih => exact (nil number [line]).append ih
  | @block number lines rest operation operations head _ ih =>
      exact (each number lines operation head).append ih

end Anchored

theorem Anchored.of_opened {number : Nat} {lines : List Text} {operation : Operation}
    (opened : Opened delimiters number lines operation) (leaf : operation.kind ≠ .tasks) :
    Anchored delimiters number lines operation.preorder := by
  have childless := Operation.children_of_kind_ne_tasks leaf
  rw [Operation.preorder_eq_cons, childless]
  apply Anchored.single opened
  rw [childless]
  exact fun _ member => absurd member List.not_mem_nil

theorem Anchored.of_group {number : Nat} {opener : Text} {inner : List Text}
    {attributes : List Attribute} {operations : List Operation}
    (opens : Opens delimiters .tasks attributes opener)
    (inside : Sequence delimiters (Leaf delimiters) (number + 1) inner operations) :
    Anchored delimiters number (opener :: inner)
      (Operation.tasks ⟨number, attributes⟩ operations).preorder := by
  have group : Anchored delimiters number [opener]
      [Operation.tasks ⟨number, attributes⟩ operations] :=
    Anchored.single ⟨rfl, opener, [], rfl, opens⟩
      (inside.forall_of_block fun _ _ _ leaf => leaf.kind_ne_tasks)
  have children := Anchored.of_sequence
    (fun _ _ _ leaf => Anchored.of_opened leaf.opened leaf.kind_ne_tasks) inside
  exact group.append children

theorem Anchored.of_block {number : Nat} {lines : List Text} {operation : Operation}
    (block : Block delimiters number lines operation) :
    Anchored delimiters number lines operation.preorder := by
  cases block with
  | leaf leaf => exact Anchored.of_opened leaf.opened leaf.kind_ne_tasks
  | @tasks opener closer attributes inner operations opens inside closes =>
      have closed := (Anchored.of_group opens inside).append (Anchored.nil _ [closer])
      rw [List.append_nil] at closed
      exact closed

theorem Anchored.of_document {lines : List Text} {operations : List Operation}
    (document : Document delimiters lines operations) :
    Anchored delimiters 1 lines (Operation.preorderAll operations) :=
  Anchored.of_sequence (fun _ _ _ block => Anchored.of_block block) document

/-! ### What a reader holds -/

def OpenOperation.asOperation (inner : OpenOperation) : Operation :=
  inner.draft.complete inner.header

def OpenTasks.asOperation (group : OpenTasks) : Operation := .tasks group.header group.operations

/-- The operations that a reader has met, complete or not, in document order.  An
open operation comes behind the open tasks block instead of inside it. -/
def Progress.held (progress : Progress) : List Operation :=
  progress.complete ++ (progress.tasks.toList.map OpenTasks.asOperation ++
    progress.operation.toList.map OpenOperation.asOperation)

@[simp] theorem OpenOperation.kind_asOperation (inner : OpenOperation) :
    inner.asOperation.kind = inner.draft.kind := by
  obtain ⟨header, draft⟩ := inner
  cases draft <;> rfl

@[simp] theorem OpenOperation.line_asOperation (inner : OpenOperation) :
    inner.asOperation.line = inner.header.line := by
  obtain ⟨header, draft⟩ := inner
  cases draft <;> rfl

theorem OpenOperation.kind_asOperation_ne_tasks (inner : OpenOperation) :
    inner.asOperation.kind ≠ .tasks := by
  rw [inner.kind_asOperation]
  cases inner.draft <;> exact nofun

theorem Begun.opened {number : Nat} {lines : List Text} {inner : OpenOperation}
    (begun : Begun delimiters number lines inner) :
    Opened delimiters number lines inner.asOperation := by
  cases begun with
  | write opens _ => exact ⟨rfl, _, _, rfl, opens⟩
  | run opens _ => exact ⟨rfl, _, _, rfl, opens⟩
  | pattern opens _ => exact ⟨rfl, _, _, rfl, opens⟩
  | range opens _ _ _ => exact ⟨rfl, _, _, rfl, opens⟩
  | replacePattern opens _ _ _ => exact ⟨rfl, _, _, rfl, opens⟩
  | replaceRange opens _ _ _ _ _ => exact ⟨rfl, _, _, rfl, opens⟩

theorem Anchored.of_begun {number : Nat} {lines : List Text} {inner : OpenOperation}
    (begun : Begun delimiters number lines inner) :
    Anchored delimiters number lines (Operation.preorderAll [inner.asOperation]) := by
  rw [Operation.preorderAll_singleton]
  exact Anchored.of_opened begun.opened inner.kind_asOperation_ne_tasks

/-- What a reader holds stands in the lines that it has read, in order. -/
theorem Reached.anchored {lines : List Text} {progress : Progress}
    (reached : Reached delimiters lines progress) :
    Anchored delimiters 1 lines (Operation.preorderAll progress.held) := by
  unfold Progress.held
  rw [Operation.preorderAll_append, Operation.preorderAll_append]
  cases reached with
  | idle finished =>
      have whole := Anchored.of_document finished
      simp only [Option.toList_none, List.map_nil, Operation.preorderAll, List.append_nil]
      exact whole
  | leaf finished begun => exact (Anchored.of_document finished).append (Anchored.of_begun begun)
  | @tasks before inner opener attributes complete operations finished opens inside =>
      have group := Anchored.of_group opens inside
      rw [← Operation.preorderAll_singleton, ← List.append_nil (Operation.preorderAll _)] at group
      exact (Anchored.of_document finished).append group
  | @nested before inner part opener attributes complete operations current finished opens inside
      begun =>
      have group := Anchored.of_group opens inside
      rw [← Operation.preorderAll_singleton] at group
      have number : 1 + before.length + 1 + inner.length =
          1 + before.length + (opener :: inner).length := by
        rw [List.length_cons]
        omega
      rw [number] at begun
      exact (Anchored.of_document finished).append (group.append (Anchored.of_begun begun))

theorem Progress.anchored_of_advance {lines : List Text} {last : Progress}
    (taken : Progress.start.advance delimiters 1 lines = .ok last) :
    Anchored delimiters 1 lines (Operation.preorderAll last.held) :=
  (Reached.run lines (.idle (Sequence.done 1)) taken).anchored

/-- The operations of a script in document order record ascending lines of the
text, each that of the marker that opens it, and no tasks block holds another. -/
theorem parse_stands_on_markers {text : Text} {operations : List Operation}
    (parsed : parse delimiters text = .ok operations) :
    ((Operation.preorderAll operations).map Operation.line).Pairwise (· < ·) ∧
    (∀ operation ∈ Operation.preorderAll operations,
      1 ≤ operation.line ∧ operation.line ≤ (linesOf text).length ∧
      ∃ opener arguments, (linesOf text)[operation.line - 1]? = some opener ∧
        Marker.ofLine? delimiters opener = some ⟨operation.kind.name, arguments⟩ ∧
        Attribute.readList arguments = .ok operation.attributes) ∧
    (∀ operation ∈ Operation.preorderAll operations, operation.kind = .tasks →
      ∀ child ∈ operation.children, child.kind ≠ .tasks) := by
  have document : Document delimiters (linesOf text) operations := document_of_parseLines parsed
  have anchored := Anchored.of_sequence (fun _ _ _ block => Anchored.of_block block) document
  refine ⟨anchored.ascend, ?_, fun operation member _ => anchored.flat operation member⟩
  intro operation member
  have stands := anchored.stand operation member
  have ends := stands.ends
  obtain ⟨opener, found, arguments, marks, read⟩ := stands.marker
  exact ⟨stands.begins, by omega, opener, arguments, found, marks, read⟩

/-- The tasks block is finished behind the run in it and still comes first. -/
theorem parse_stands_on_markers_nested :
    parse ⟨['<'], ['>']⟩ "<TASKS>\nnote\n<RUN dir='a'>\n<END>\n<END>\n<WRITE>\n<END>".toList =
      .ok [.tasks ⟨1, []⟩ [.run ⟨3, [⟨"dir".toList, "a".toList⟩]⟩ []], .write ⟨6, []⟩ []] ∧
    [1, 3, 6].Pairwise (· < ·) ∧
    ∃ opener arguments,
      (linesOf "<TASKS>\nnote\n<RUN dir='a'>\n<END>\n<END>\n<WRITE>\n<END>".toList)[2]? =
        some opener ∧
      Marker.ofLine? ⟨['<'], ['>']⟩ opener = some ⟨"RUN".toList, arguments⟩ ∧
      Attribute.readList arguments = .ok [⟨"dir".toList, "a".toList⟩] := by
  have parsed : parse ⟨['<'], ['>']⟩
      "<TASKS>\nnote\n<RUN dir='a'>\n<END>\n<END>\n<WRITE>\n<END>".toList =
        .ok [.tasks ⟨1, []⟩ [.run ⟨3, [⟨"dir".toList, "a".toList⟩]⟩ []], .write ⟨6, []⟩ []] := by
    decide +kernel
  obtain ⟨ascend, stand, _flat⟩ := parse_stands_on_markers parsed
  obtain ⟨_begins, _ends, marker⟩ := stand (.run ⟨3, [⟨"dir".toList, "a".toList⟩]⟩ [])
    (.tail _ (.head _))
  exact ⟨parsed, ascend, marker⟩

end ChangeScript

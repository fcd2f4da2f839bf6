/-
Scripts with other line numbers.

A reader uses the numbers of lines for nothing but to record them, and complete
operations for nothing but to keep them.  So a run whose lines are numbered in
another way, behind operations that are complete already, gives the same answer
with the new numbers behind those operations.  Two scripts with a line feed
between them are then read as one script and the other.
-/

import ChangeScript.Proofs.Run
import ChangeScript.Proofs.Tree

set_option autoImplicit false

namespace ChangeScript

open Text Grammar

variable {delimiters : Delimiters}

def Header.renumber (move : Nat → Nat) (header : Header) : Header :=
  { header with line := move header.line }

def Rejection.renumber (move : Nat → Nat) (rejection : Rejection) : Rejection :=
  { rejection with line := move rejection.line }

namespace Operation

mutual
def renumber (move : Nat → Nat) : Operation → Operation
  | .write header content => .write (header.renumber move) content
  | .run header content => .run (header.renumber move) content
  | .search header pattern upTo replacement =>
      .search (header.renumber move) pattern upTo replacement
  | .tasks header operations => .tasks (header.renumber move) (renumberAll move operations)

def renumberAll (move : Nat → Nat) : List Operation → List Operation
  | [] => []
  | first :: rest => first.renumber move :: renumberAll move rest
end

theorem renumberAll_eq_map (move : Nat → Nat) (operations : List Operation) :
    renumberAll move operations = operations.map (renumber move) := by
  induction operations with
  | nil => rfl
  | cons first rest ih => rw [renumberAll, ih, List.map_cons]

theorem renumberAll_append (move : Nat → Nat) (left right : List Operation) :
    renumberAll move (left ++ right) = renumberAll move left ++ renumberAll move right := by
  simp only [renumberAll_eq_map, List.map_append]

end Operation

theorem Draft.complete_renumber (move : Nat → Nat) (header : Header) (draft : Draft) :
    draft.complete (header.renumber move) = (draft.complete header).renumber move := by
  cases draft <;> rfl

def OpenOperation.renumber (move : Nat → Nat) (inner : OpenOperation) : OpenOperation :=
  { inner with header := inner.header.renumber move }

def OpenTasks.renumber (move : Nat → Nat) (group : OpenTasks) : OpenTasks :=
  ⟨group.header.renumber move, Operation.renumberAll move group.operations⟩

namespace Progress

/-- What a reader holds when lines have new numbers and the earlier operations
are complete before the first of them. -/
def relocate (earlier : List Operation) (move : Nat → Nat) (progress : Progress) : Progress :=
  { complete := earlier ++ Operation.renumberAll move progress.complete
    tasks := progress.tasks.map (OpenTasks.renumber move)
    operation := progress.operation.map (OpenOperation.renumber move) }

variable {earlier : List Operation} {move : Nat → Nat}

@[simp] theorem phase_relocate (progress : Progress) :
    (progress.relocate earlier move).phase = progress.phase := by
  obtain ⟨complete, tasks, operation⟩ := progress
  cases operation <;> cases tasks <;> rfl

@[simp] theorem isSome_tasks_relocate (progress : Progress) :
    (progress.relocate earlier move).tasks.isSome = progress.tasks.isSome := by
  obtain ⟨complete, tasks, operation⟩ := progress
  cases tasks <;> rfl

theorem mapDraft_relocate (change : Draft → Draft) (progress : Progress) :
    (progress.relocate earlier move).mapDraft change =
      (progress.mapDraft change).relocate earlier move := by
  obtain ⟨complete, tasks, operation⟩ := progress
  cases operation <;> rfl

theorem closeInnermost_relocate (progress : Progress) :
    (progress.relocate earlier move).closeInnermost =
      progress.closeInnermost.relocate earlier move := by
  obtain ⟨complete, tasks, operation⟩ := progress
  cases operation with
  | some inner =>
      cases tasks with
      | some group =>
          simp only [closeInnermost, relocate, Option.map_some, Option.map_none, OpenTasks.renumber,
            OpenOperation.renumber, Draft.complete_renumber, Operation.renumberAll_append]
          rfl
      | none =>
          simp only [closeInnermost, relocate, Option.map_some, Option.map_none,
            OpenOperation.renumber, Draft.complete_renumber, Operation.renumberAll_append,
            List.append_assoc]
          rfl
  | none =>
      cases tasks with
      | some group =>
          simp only [closeInnermost, relocate, Option.map_some, Option.map_none, OpenTasks.renumber,
            Operation.renumberAll_append, List.append_assoc]
          rfl
      | none => rfl

private theorem openKind_relocate (progress : Progress) (number : Nat) (kind : Kind)
    (arguments : Text) :
    (progress.relocate earlier move).openKind (move number) kind arguments =
      (progress.openKind number kind arguments).map (relocate earlier move) := by
  unfold openKind
  rw [isSome_tasks_relocate, phase_relocate]
  split
  · rfl
  · split
    · rfl
    · cases Attribute.readList arguments with
      | error fault => rfl
      | ok attributes => cases kind <;> rfl

private theorem require_relocate (progress : Progress) (keyword : Keyword) :
    (progress.relocate earlier move).require keyword = progress.require keyword := by
  simp only [require, phase_relocate]

private theorem enter_relocate (progress : Progress) (keyword : Keyword)
    (change : Draft → Draft) :
    (progress.relocate earlier move).enter keyword change =
      (progress.enter keyword change).map (relocate earlier move) := by
  unfold enter
  rw [require_relocate]
  cases progress.require keyword with
  | error fault => rfl
  | ok granted => exact congrArg Except.ok (mapDraft_relocate change progress)

private theorem close_relocate (progress : Progress) (arguments : Text) :
    (progress.relocate earlier move).close arguments =
      (progress.close arguments).map (relocate earlier move) := by
  unfold close
  rw [phase_relocate, require_relocate]
  split
  · rfl
  · cases progress.require .close with
    | error fault => rfl
    | ok granted => exact congrArg Except.ok (closeInnermost_relocate progress)

private theorem follow_relocate (progress : Progress) (number : Nat) (marker : Marker) :
    (progress.relocate earlier move).follow (move number) marker =
      (progress.follow number marker).map (relocate earlier move) := by
  unfold follow
  cases Keyword.ofName? marker.name with
  | none => rfl
  | some keyword =>
      cases keyword with
      | opens kind => exact openKind_relocate progress number kind marker.arguments
      | upTo => exact enter_relocate progress .upTo Draft.enterTo
      | replace => exact enter_relocate progress .replace Draft.enterReplacement
      | close => exact close_relocate progress marker.arguments

theorem step_relocate (progress : Progress) (number : Nat) (line : Text) :
    (progress.relocate earlier move).step delimiters (move number) line =
      (progress.step delimiters number line).map (relocate earlier move) := by
  unfold step
  rw [phase_relocate]
  cases LineClass.ofLine delimiters progress.phase line with
  | error fault => rfl
  | ok found =>
      cases found with
      | content => exact congrArg Except.ok (mapDraft_relocate (Draft.push line) progress)
      | marker marker => exact follow_relocate progress number marker

/-- A run does the same under new numbers, if lines in a row keep numbers in a row. -/
theorem advance_relocate {number : Nat} (inRow : ∀ other, number ≤ other →
      move (other + 1) = move other + 1) (lines : List Text) (progress : Progress) :
    (progress.relocate earlier move).advance delimiters (move number) lines =
      ((progress.advance delimiters number lines).map (relocate earlier move)).mapError
        (Rejection.renumber move) := by
  induction lines generalizing number progress with
  | nil => rfl
  | cons line rest ih =>
      unfold advance
      rw [step_relocate]
      cases progress.step delimiters number line with
      | error fault => rfl
      | ok next =>
          have later : ∀ other, number + 1 ≤ other → move (other + 1) = move other + 1 :=
            fun other after => inRow other (Nat.le_of_succ_le after)
          change (next.relocate earlier move).advance delimiters (move number + 1) rest = _
          rw [← inRow number (Nat.le_refl number)]
          exact ih later next

theorem finish_relocate (progress : Progress) :
    (progress.relocate earlier move).finish =
      (progress.finish.map fun operations => earlier ++ Operation.renumberAll move operations).mapError
        (Rejection.renumber move) := by
  obtain ⟨complete, tasks, operation⟩ := progress
  cases tasks with
  | some group => rfl
  | none => cases operation <;> rfl

end Progress

/-! ### Scripts in a row -/

theorem parseLines_append {left : List Text} {first : List Operation}
    (parsed : parseLines delimiters left = .ok first) (right : List Text) :
    parseLines delimiters (left ++ right) =
      ((parseLines delimiters right).map fun second =>
        first ++ Operation.renumberAll (· + left.length) second).mapError
        (Rejection.renumber (· + left.length)) := by
  have head := parseLines_eq_ok_iff.mp parsed
  have start : (⟨first, none, none⟩ : Progress) =
      Progress.start.relocate first (· + left.length) := by
    simp [Progress.relocate, Progress.start, Operation.renumberAll]
  have inRow : ∀ other, 1 ≤ other → other + 1 + left.length = other + left.length + 1 :=
    fun other _ => Nat.add_right_comm other 1 left.length
  have tail := @Progress.advance_relocate delimiters first (· + left.length) 1 inRow right
    Progress.start
  unfold parseLines
  rw [Progress.advance_append head, start, tail]
  cases Progress.start.advance delimiters 1 right with
  | error rejection => rfl
  | ok last => exact last.finish_relocate

theorem parse_join {left : Text} {first : List Operation}
    (parsed : parse delimiters left = .ok first) (whole : left.getLast? ≠ some '\r')
    (right : Text) :
    parse delimiters (left ++ '\n' :: right) =
      ((parse delimiters right).map fun second =>
        first ++ Operation.renumberAll (· + (linesOf left).length) second).mapError
        (Rejection.renumber (· + (linesOf left).length)) := by
  have joined := parseLines_append parsed (linesOf right)
  rw [← linesOf_append_feed_append left right whole] at joined
  exact joined

/-- A script behind an accepted one is read the same way, its lines numbered on
from those of the first, whether it is accepted or refused.  The line feed
between them must not complete a line end of the first. -/
theorem parse_append_feed {left right : Text} {first : List Operation}
    (parsed : parse delimiters left = .ok first) (whole : left.getLast? ≠ some '\r') :
    (∀ second, parse delimiters right = .ok second →
      parse delimiters (left ++ '\n' :: right) =
        .ok (first ++ Operation.renumberAll (· + (linesOf left).length) second)) ∧
    (∀ number fault, parse delimiters right = .error ⟨number, fault⟩ →
      parse delimiters (left ++ '\n' :: right) =
        .error ⟨number + (linesOf left).length, fault⟩) := by
  constructor
  · intro second accepted
    rw [parse_join parsed whole, accepted]
    rfl
  · intro number fault refused
    rw [parse_join parsed whole, refused]
    rfl

/-- Behind four lines, a tasks block and the run in it move by four lines, and so
does a write that is never closed. -/
theorem parse_append_feed_behind_run :
    parse .standard "<---RUN--->\nls\n<---END--->\n".toList = .ok [.run ⟨1, []⟩ "ls".toList] ∧
    parse .standard ("<---RUN--->\nls\n<---END--->\n".toList ++
        '\n' :: "<---TASKS--->\n<---RUN--->\n<---END--->\n<---END--->".toList) =
      .ok [.run ⟨1, []⟩ "ls".toList, .tasks ⟨5, []⟩ [.run ⟨6, []⟩ []]] ∧
    parse .standard ("<---RUN--->\nls\n<---END--->\n".toList ++ '\n' :: "x\n<---WRITE--->".toList) =
      .error ⟨6, .unterminated .write⟩ := by
  have parsed : parse .standard "<---RUN--->\nls\n<---END--->\n".toList =
      .ok [.run ⟨1, []⟩ "ls".toList] := by
    decide +kernel
  have whole : "<---RUN--->\nls\n<---END--->\n".toList.getLast? ≠ some '\r' := by decide
  have accepted : parse .standard "<---TASKS--->\n<---RUN--->\n<---END--->\n<---END--->".toList =
      .ok [.tasks ⟨1, []⟩ [.run ⟨2, []⟩ []]] := by
    decide +kernel
  have refused : parse .standard "x\n<---WRITE--->".toList =
      .error ⟨2, .unterminated .write⟩ := by
    decide +kernel
  exact ⟨parsed, (parse_append_feed parsed whole).1 _ accepted,
    (parse_append_feed parsed whole).2 _ _ refused⟩

end ChangeScript

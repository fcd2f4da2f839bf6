/-
What a run over several lines gives.

A run over lines in a row is a run over the first of them and then over the
others, or it stops at a fault of its own.  No line has the fault of an operation
that is never closed: that fault is found at the end alone, and every other one
is blamed on the line that has it.  On the way a run only adds to the complete
operations.
-/

import ChangeScript.Proofs.Step

set_option autoImplicit false

namespace ChangeScript

open Text Grammar

variable {delimiters : Delimiters}

/-- An answer that the last line was reached with: the script is accepted, or
something is left open. -/
def ReachesEnd : Except Rejection (List Operation) → Prop
  | .ok _ => True
  | .error rejection => ∃ kind, rejection.fault = .unterminated kind

namespace Progress

theorem finish_eq_ok_iff {progress : Progress} {operations : List Operation} :
    progress.finish = .ok operations ↔ progress = ⟨operations, none, none⟩ := by
  obtain ⟨complete, tasks, operation⟩ := progress
  constructor
  · intro finished
    cases tasks with
    | some group => cases finished
    | none =>
        cases operation with
        | some inner => cases finished
        | none =>
            cases finished
            rfl
  · intro shape
    cases shape
    rfl

theorem reachesEnd_finish (progress : Progress) : ReachesEnd progress.finish := by
  obtain ⟨complete, tasks, operation⟩ := progress
  cases tasks with
  | some group => exact ⟨.tasks, rfl⟩
  | none =>
      cases operation with
      | some inner => exact ⟨inner.draft.kind, rfl⟩
      | none => trivial

private theorem classify_fault {phase : Phase} {line : Text} {fault : Fault}
    (refused : LineClass.ofLine delimiters phase line = .error fault) (kind : Kind) :
    fault ≠ .unterminated kind := by
  unfold LineClass.ofLine at refused
  split at refused
  · split at refused
    · split at refused <;> cases refused
    · unfold LineClass.ofFragment at refused
      simp only at refused
      split at refused
      · split at refused
        · cases refused
          exact nofun
        · split at refused <;> cases refused
          exact nofun
      · split at refused <;> cases refused
        exact nofun
  · cases refused

private theorem require_fault {progress : Progress} {keyword : Keyword} {fault : Fault}
    (refused : progress.require keyword = .error fault) (kind : Kind) :
    fault ≠ .unterminated kind := by
  unfold require at refused
  split at refused
  · cases refused
    exact nofun
  · split at refused <;> cases refused
    exact nofun

private theorem enter_fault {progress : Progress} {keyword : Keyword} {change : Draft → Draft}
    {fault : Fault} (refused : progress.enter keyword change = .error fault) (kind : Kind) :
    fault ≠ .unterminated kind := by
  unfold enter at refused
  split at refused
  · next inner denied =>
      cases refused
      exact require_fault denied kind
  · cases refused

private theorem close_fault {progress : Progress} {arguments : Text} {fault : Fault}
    (refused : progress.close arguments = .error fault) (kind : Kind) :
    fault ≠ .unterminated kind := by
  unfold close at refused
  split at refused
  · cases refused
    exact nofun
  · split at refused
    · next inner denied =>
        cases refused
        exact require_fault denied kind
    · cases refused

private theorem openKind_fault {progress : Progress} {number : Nat} {opened : Kind}
    {arguments : Text} {fault : Fault}
    (refused : progress.openKind number opened arguments = .error fault) (kind : Kind) :
    fault ≠ .unterminated kind := by
  unfold openKind at refused
  split at refused
  · cases refused
    exact nofun
  · split at refused
    · cases refused
      exact nofun
    · split at refused
      · cases refused
        exact nofun
      · cases opened <;> cases refused

theorem step_fault_ne_unterminated {progress : Progress} {number : Nat} {line : Text}
    {fault : Fault} (refused : progress.step delimiters number line = .error fault)
    (kind : Kind) : fault ≠ .unterminated kind := by
  unfold step at refused
  split at refused
  · next inner unclassified =>
      cases refused
      exact classify_fault unclassified kind
  · cases refused
  · unfold follow at refused
    split at refused
    · exact openKind_fault refused kind
    · exact enter_fault refused kind
    · exact enter_fault refused kind
    · exact close_fault refused kind
    · cases refused
      exact nofun

theorem advance_error {number : Nat} {lines : List Text} {progress : Progress}
    {rejection : Rejection} (refused : progress.advance delimiters number lines = .error rejection) :
    number ≤ rejection.line ∧ rejection.line < number + lines.length ∧
      ∀ kind, rejection.fault ≠ .unterminated kind := by
  induction lines generalizing number progress with
  | nil => cases refused
  | cons line rest ih =>
      unfold advance at refused
      split at refused
      · next fault denied =>
          cases refused
          simp only [List.length_cons]
          exact ⟨Nat.le_refl number, by omega, step_fault_ne_unterminated denied⟩
      · next next taken =>
          obtain ⟨after, before, other⟩ := ih refused
          simp only [List.length_cons]
          exact ⟨by omega, by omega, other⟩

theorem advance_append_of_error {number : Nat} {left : List Text} {progress : Progress}
    {rejection : Rejection} (refused : progress.advance delimiters number left = .error rejection)
    (right : List Text) :
    progress.advance delimiters number (left ++ right) = .error rejection := by
  induction left generalizing number progress with
  | nil => cases refused
  | cons line rest ih =>
      rw [List.cons_append]
      unfold advance at refused ⊢
      cases taken : progress.step delimiters number line with
      | error fault =>
          rw [taken] at refused
          exact refused
      | ok next =>
          rw [taken] at refused
          exact ih refused

theorem complete_of_moves {number : Nat} {line : Text} {progress next : Progress}
    (move : Moves delimiters number line progress next) : progress.complete <+: next.complete := by
  cases move with
  | skip outside => exact List.prefix_rfl
  | collect inside => exact List.prefix_rfl
  | openLeaf begins opens => exact List.prefix_rfl
  | openTasks opens => exact List.prefix_rfl
  | enterTo divides => exact List.prefix_rfl
  | replacePattern divides => exact List.prefix_rfl
  | replaceRange divides => exact List.prefix_rfl
  | closeLeaf admits closes => exact List.prefix_append _ _
  | closeNested admits closes => exact List.prefix_rfl
  | closeTasks closes => exact List.prefix_append _ _

/-- Complete operations stay complete, and later ones come behind them. -/
theorem complete_of_advance {number : Nat} {lines : List Text} {progress last : Progress}
    (taken : progress.advance delimiters number lines = .ok last) :
    progress.complete <+: last.complete := by
  induction lines generalizing number progress with
  | nil =>
      cases taken
      exact List.prefix_rfl
  | cons line rest ih =>
      obtain ⟨next, move, later⟩ := moves_of_advance_cons taken
      exact (complete_of_moves move).trans (ih later)

end Progress

/-! ### Whole scripts -/

theorem parseLines_eq_ok_iff {lines : List Text} {operations : List Operation} :
    parseLines delimiters lines = .ok operations ↔
      Progress.start.advance delimiters 1 lines = .ok ⟨operations, none, none⟩ := by
  unfold parseLines
  constructor
  · intro parsed
    split at parsed
    · cases parsed
    · next last taken =>
        rw [taken, Progress.finish_eq_ok_iff.mp parsed]
  · intro taken
    rw [taken]
    rfl

theorem parseLines_of_advance_error {lines : List Text} {rejection : Rejection}
    (refused : Progress.start.advance delimiters 1 lines = .error rejection) :
    parseLines delimiters lines = .error rejection := by
  unfold parseLines
  rw [refused]

theorem reachesEnd_parseLines_iff {lines : List Text} :
    ReachesEnd (parseLines delimiters lines) ↔
      ∃ last, Progress.start.advance delimiters 1 lines = .ok last := by
  unfold parseLines
  cases taken : Progress.start.advance delimiters 1 lines with
  | error rejection =>
      obtain ⟨_after, _before, other⟩ := Progress.advance_error taken
      constructor
      · rintro ⟨kind, unclosed⟩
        exact absurd unclosed (other kind)
      · rintro ⟨last, same⟩
        cases same
  | ok last => exact ⟨fun _ => ⟨last, rfl⟩, fun _ => last.reachesEnd_finish⟩

/-- A fault other than that of an operation left open is met in the run. -/
theorem advance_of_parseLines_error {lines : List Text} {rejection : Rejection}
    (refused : parseLines delimiters lines = .error rejection)
    (other : ∀ kind, rejection.fault ≠ .unterminated kind) :
    Progress.start.advance delimiters 1 lines = .error rejection := by
  unfold parseLines at refused
  split at refused
  · next earlier taken =>
      cases refused
      exact taken
  · next last taken =>
      have ends := last.reachesEnd_finish
      rw [refused] at ends
      obtain ⟨kind, unclosed⟩ := ends
      exact absurd unclosed (other kind)

/-- A fault is that of every beginning that holds its line, and no shorter
beginning has one. -/
theorem parseLines_take_of_error {lines : List Text} {rejection : Rejection}
    (refused : parseLines delimiters lines = .error rejection)
    (other : ∀ kind, rejection.fault ≠ .unterminated kind) {count : Nat}
    (within : count ≤ lines.length) :
    (rejection.line ≤ count → parseLines delimiters (lines.take count) = .error rejection) ∧
      (count < rejection.line → ReachesEnd (parseLines delimiters (lines.take count))) := by
  have whole := advance_of_parseLines_error refused other
  have length : (lines.take count).length = count := List.length_take_of_le within
  rw [← List.take_append_drop count lines] at whole
  cases head : Progress.start.advance delimiters 1 (lines.take count) with
  | error earlier =>
      rw [Progress.advance_append_of_error head] at whole
      cases whole
      obtain ⟨_after, before, _other⟩ := Progress.advance_error head
      exact ⟨fun _ => parseLines_of_advance_error head, fun short => by omega⟩
  | ok next =>
      rw [Progress.advance_append head] at whole
      obtain ⟨after, _before, _other⟩ := Progress.advance_error whole
      exact ⟨fun long => by omega, fun _ => reachesEnd_parseLines_iff.mpr ⟨next, head⟩⟩

theorem reachesEnd_parseLines_take {lines : List Text}
    (ends : ReachesEnd (parseLines delimiters lines)) (count : Nat) :
    ReachesEnd (parseLines delimiters (lines.take count)) := by
  obtain ⟨last, whole⟩ := reachesEnd_parseLines_iff.mp ends
  rw [← List.take_append_drop count lines] at whole
  cases head : Progress.start.advance delimiters 1 (lines.take count) with
  | error rejection =>
      rw [Progress.advance_append_of_error head] at whole
      cases whole
  | ok next => exact reachesEnd_parseLines_iff.mpr ⟨next, head⟩

/-- A script that is accepted at two of its lines has more operations at the
later one, behind the same first ones. -/
theorem parseLines_take_le {lines : List Text} {early late : Nat} (ordered : early ≤ late)
    {first second : List Operation}
    (before : parseLines delimiters (lines.take early) = .ok first)
    (behind : parseLines delimiters (lines.take late) = .ok second) : first <+: second := by
  have head := parseLines_eq_ok_iff.mp before
  have whole := parseLines_eq_ok_iff.mp behind
  rw [← List.take_append_drop early (lines.take late), List.take_take,
    Nat.min_eq_left ordered, Progress.advance_append head] at whole
  exact Progress.complete_of_advance whole

end ChangeScript

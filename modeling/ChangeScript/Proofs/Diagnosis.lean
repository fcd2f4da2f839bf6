/-
Where diagnostics point.

A rejection is explained on a line that begins like a marker, and what is left
open is explained on the whole marker that opened it.  A finding is explained on
the marker of the operation found wrong, with a note on the marker of the tasks
block around it, if there is one.  Findings come in the order of these lines.

A run numbers the lines that it is given, a diagnostic looks up the span of a
line in the text, and findings take their lines from a walk over operations; the
results below tie the three together.
-/

import Mathlib.Data.List.Nodup
import ChangeScript.Diagnostic
import ChangeScript.Proofs.Position
import ChangeScript.Proofs.Run
import ChangeScript.Proofs.Spans

set_option autoImplicit false

namespace ChangeScript

open Text Grammar

variable {delimiters : Delimiters}

/-- A span that takes up exactly the line with the given number, counted from one. -/
structure Span.Covers (text : Text) (number : Nat) (span : Span) : Prop where
  counted : 1 ≤ number
  within : number ≤ (linesOf text).length
  listed : (lineSpans text)[number - 1]? = some span
  line : (linesOf text)[number - 1]? = some (span.slice text)

def MarkerAt (delimiters : Delimiters) (text : Text) (number : Nat) (kind : Kind) : Prop :=
  1 ≤ number ∧ ∃ line arguments, (linesOf text)[number - 1]? = some line ∧
    Marker.ofLine? delimiters line = some ⟨kind.name, arguments⟩

theorem covers_lineSpan {text line : Text} {number : Nat} (counted : 1 ≤ number)
    (found : (linesOf text)[number - 1]? = some line) :
    (lineSpan text number).Covers text number ∧ (lineSpan text number).slice text = line := by
  have sliced := found
  rw [← map_slice_lineSpans, List.getElem?_map] at sliced
  obtain ⟨span, listed, slice⟩ := Option.map_eq_some_iff.mp sliced
  have same : lineSpan text number = span := by
    rw [lineSpan_eq_getD, listed, Option.getD_some]
  obtain ⟨inside, _same⟩ := List.getElem?_eq_some_iff.mp found
  rw [same]
  refine ⟨⟨counted, by omega, listed, ?_⟩, slice⟩
  rw [slice]
  exact found

theorem markerAt_of_standsIn {text : Text} {operation : Operation}
    (stands : operation.StandsIn delimiters 1 (linesOf text)) :
    MarkerAt delimiters text operation.line operation.kind := by
  obtain ⟨opener, found, arguments, marks, _read⟩ := stands.marker
  exact ⟨stands.begins, opener, arguments, found, marks⟩

theorem covers_of_markerAt {text : Text} {number : Nat} {kind : Kind}
    (marker : MarkerAt delimiters text number kind) :
    (lineSpan text number).Covers text number := by
  obtain ⟨counted, line, _arguments, found, _marks⟩ := marker
  exact (covers_lineSpan counted found).1

/-! ### Rejections -/

namespace Progress

theorem opening_of_step_error {progress : Progress} {number : Nat} {line : Text} {fault : Fault}
    (refused : progress.step delimiters number line = .error fault) :
    delimiters.opening <+: line := by
  by_cases lead : Marker.isCandidate delimiters line = true
  · exact Marker.isCandidate_iff.mp lead
  · have content : LineClass.ofLine delimiters progress.phase line = .ok .content := by
      rw [LineClass.ofLine, if_neg lead]
    rw [step, content] at refused
    cases refused

theorem opening_of_advance_error {number : Nat} {lines : List Text} {progress : Progress}
    {rejection : Rejection}
    (refused : progress.advance delimiters number lines = .error rejection) :
    ∃ line, lines[rejection.line - number]? = some line ∧ delimiters.opening <+: line := by
  induction lines generalizing number progress with
  | nil => cases refused
  | cons line rest ih =>
      unfold advance at refused
      split at refused
      · next fault denied =>
          cases refused
          rw [Nat.sub_self]
          exact ⟨line, rfl, opening_of_step_error denied⟩
      · next next taken =>
          obtain ⟨after, _before, _other⟩ := advance_error refused
          have index : rejection.line - number = rejection.line - (number + 1) + 1 := by omega
          rw [index]
          exact ih refused

/-- What is left open is blamed on an operation that the reader holds, and on the
tasks block if one is open. -/
theorem held_of_finish_error {progress : Progress} {rejection : Rejection}
    (refused : progress.finish = .error rejection) :
    ∃ operation ∈ progress.held, rejection = ⟨operation.line, .unterminated operation.kind⟩ ∧
      (operation.kind = .tasks ↔ progress.tasks.isSome = true) := by
  obtain ⟨complete, tasks, operation⟩ := progress
  cases tasks with
  | some group =>
      cases refused
      refine ⟨group.asOperation, ?_, rfl, iff_of_true rfl rfl⟩
      exact List.mem_append_right _ (List.mem_append_left _ (List.mem_singleton.mpr rfl))
  | none =>
      cases operation with
      | none => cases refused
      | some inner =>
          cases refused
          refine ⟨inner.asOperation, ?_, ?_, iff_of_false inner.kind_asOperation_ne_tasks nofun⟩
          · exact List.mem_append_right _ (List.mem_append_right _ (List.mem_singleton.mpr rfl))
          · rw [inner.line_asOperation, inner.kind_asOperation]

end Progress

/-- A rejection is blamed on a line that begins like a marker, and what is left
open on the marker that opened it. -/
theorem line_of_parse_error {text : Text} {rejection : Rejection}
    (refused : parse delimiters text = .error rejection) :
    1 ≤ rejection.line ∧
    (∃ line, (linesOf text)[rejection.line - 1]? = some line ∧ delimiters.opening <+: line) ∧
    ∀ kind, rejection.fault = .unterminated kind →
      MarkerAt delimiters text rejection.line kind ∧
      (kind = .tasks ↔ ∃ last, Progress.start.advance delimiters 1 (linesOf text) = .ok last ∧
        last.tasks.isSome = true) := by
  cases taken : Progress.start.advance delimiters 1 (linesOf text) with
  | error earlier =>
      rw [parse, parseLines_of_advance_error taken] at refused
      cases refused
      obtain ⟨counted, _within, other⟩ := Progress.advance_error taken
      exact ⟨counted, Progress.opening_of_advance_error taken,
        fun kind unclosed => absurd unclosed (other kind)⟩
  | ok last =>
      rw [parse, parseLines, taken] at refused
      obtain ⟨operation, member, rfl, tasks⟩ := Progress.held_of_finish_error refused
      have stands := (Progress.anchored_of_advance taken).stand operation
        (Operation.mem_preorderAll_of_mem member)
      have marker := markerAt_of_standsIn stands
      refine ⟨stands.begins, ?_, ?_⟩
      · obtain ⟨_counted, line, arguments, found, marks⟩ := marker
        exact ⟨line, found, Marker.isCandidate_iff.mp (Marker.isCandidate_of_ofLine? marks)⟩
      · intro kind unclosed
        cases unclosed
        refine ⟨marker, ?_⟩
        rw [tasks]
        constructor
        · intro opened
          exact ⟨last, rfl, opened⟩
        · rintro ⟨_last, same, opened⟩
          cases same
          exact opened

/-! ### Findings -/

/-- A finding that is about an operation, with the line of the tasks block around
it, and is not about tasks blocks in one another. -/
structure Finding.Concerns (finding : Finding) (operation : Operation) (parent : Option Nat) :
    Prop where
  line_eq : finding.line = operation.line
  kind_eq : finding.kind = operation.kind
  parent_eq : finding.parent = parent
  message_ne : finding.message ≠ Violation.nestedTasks.message

theorem Violation.concerns_report {violation : Violation} (other : violation ≠ .nestedTasks)
    (operation : Operation) (parent : Option Nat) :
    (violation.report operation.line operation.kind parent).Concerns operation parent := by
  refine ⟨rfl, rfl, rfl, ?_⟩
  change violation.message ≠ _
  cases violation with
  | nestedTasks => exact absurd rfl other
  | _ => decide

private theorem nestedTasks_not_mem_writeViolations (header : Header) :
    Violation.nestedTasks ∉ writeViolations header := by
  unfold writeViolations
  split <;> split <;> decide

private theorem nestedTasks_not_mem_runViolations (content : Text) :
    Violation.nestedTasks ∉ runViolations content := by
  unfold runViolations
  split <;> decide

private theorem nestedTasks_not_mem_searchViolations (header : Header) (pattern : Text)
    (upTo : Option Text) : Violation.nestedTasks ∉ searchViolations header pattern upTo := by
  unfold searchViolations
  split <;> split <;> split <;> split <;> decide

namespace Operation

private theorem concerns_of_mem_map {violations : List Violation}
    (other : Violation.nestedTasks ∉ violations) {operation : Operation} {parent : Option Nat}
    {finding : Finding} (member : finding ∈ violations.map fun violation =>
      violation.report operation.line operation.kind parent) :
    finding.Concerns operation parent := by
  obtain ⟨violation, present, rfl⟩ := List.mem_map.mp member
  apply Violation.concerns_report
  intro same
  exact other (same ▸ present)

theorem concerns_of_mem_findings {operation : Operation} (leaf : operation.kind ≠ .tasks)
    {parent : Option Nat} {finding : Finding} (member : finding ∈ operation.findings parent) :
    finding.Concerns operation parent := by
  cases operation with
  | write header content =>
      exact concerns_of_mem_map (nestedTasks_not_mem_writeViolations header) member
  | run header content =>
      exact concerns_of_mem_map (nestedTasks_not_mem_runViolations content) member
  | search header pattern upTo replacement =>
      exact concerns_of_mem_map (nestedTasks_not_mem_searchViolations header pattern upTo) member
  | tasks header operations => exact absurd rfl leaf

theorem mem_findingsAll_iff {parent : Option Nat} {operations : List Operation}
    {finding : Finding} :
    finding ∈ findingsAll parent operations ↔
      ∃ operation ∈ operations, finding ∈ operation.findings parent := by
  induction operations with
  | nil => simp [findingsAll]
  | cons first rest ih =>
      rw [findingsAll, List.mem_append, ih]
      simp only [List.mem_cons, exists_eq_or_imp]

theorem concerns_of_mem_validate {operations : List Operation}
    (flat : ∀ operation ∈ operations, ∀ child ∈ operation.children, child.kind ≠ .tasks)
    {finding : Finding} (member : finding ∈ validate operations) :
    (∃ operation ∈ operations, finding.Concerns operation none) ∨
      ∃ group ∈ operations, group.kind = .tasks ∧
        ∃ operation ∈ group.children, finding.Concerns operation (some group.line) := by
  obtain ⟨operation, present, found⟩ := mem_findingsAll_iff.mp member
  by_cases leaf : operation.kind = .tasks
  · right
    cases operation with
    | tasks header children =>
        rw [findings, Option.isSome_none, if_neg Bool.false_ne_true, List.nil_append,
          mem_findingsAll_iff] at found
        obtain ⟨child, inside, foundInside⟩ := found
        exact ⟨_, present, rfl, child, inside,
          concerns_of_mem_findings (flat _ present child inside) foundInside⟩
    | write header content => cases leaf
    | run header content => cases leaf
    | search header pattern upTo replacement => cases leaf
  · exact Or.inl ⟨operation, present, concerns_of_mem_findings leaf found⟩

private theorem pairwise_findings_leaf {operation : Operation} (leaf : operation.kind ≠ .tasks)
    (parent : Option Nat) : ((operation.findings parent).map Finding.line).Pairwise (· ≤ ·) := by
  have same : ∀ number ∈ (operation.findings parent).map Finding.line, number = operation.line := by
    intro number member
    obtain ⟨finding, found, rfl⟩ := List.mem_map.mp member
    exact (concerns_of_mem_findings leaf found).line_eq
  rw [List.eq_replicate_of_mem same, List.pairwise_replicate]
  exact Or.inr (Nat.le_refl operation.line)

private theorem line_mem_findings_leaf {operation : Operation} (leaf : operation.kind ≠ .tasks)
    {parent : Option Nat} {finding : Finding} (member : finding ∈ operation.findings parent) :
    finding.line ∈ operation.preorder.map line := by
  rw [(concerns_of_mem_findings leaf member).line_eq]
  exact List.mem_map_of_mem operation.mem_preorder_self

mutual
theorem line_mem_of_mem_findings {parent : Option Nat} {finding : Finding} :
    (operation : Operation) → finding ∈ operation.findings parent →
    finding.line ∈ operation.preorder.map line
  | .write _ _, member => line_mem_findings_leaf (by nofun) member
  | .run _ _, member => line_mem_findings_leaf (by nofun) member
  | .search _ _ _ _, member => line_mem_findings_leaf (by nofun) member
  | .tasks header operations, member => by
      rw [findings, List.mem_append] at member
      rw [preorder, List.map_cons, List.mem_cons]
      rcases member with nested | inside
      · split at nested
        · rw [List.mem_singleton.mp nested]
          exact Or.inl rfl
        · cases nested
      · exact Or.inr (line_mem_of_mem_findingsAll operations inside)

theorem line_mem_of_mem_findingsAll {parent : Option Nat} {finding : Finding} :
    (operations : List Operation) → finding ∈ findingsAll parent operations →
    finding.line ∈ (preorderAll operations).map line
  | [], member => absurd member List.not_mem_nil
  | first :: rest, member => by
      rw [findingsAll, List.mem_append] at member
      rw [preorderAll, List.map_append, List.mem_append]
      rcases member with here | later
      · exact Or.inl (line_mem_of_mem_findings first here)
      · exact Or.inr (line_mem_of_mem_findingsAll rest later)
end

mutual
theorem pairwise_findings (parent : Option Nat) :
    (operation : Operation) → (operation.preorder.map line).Pairwise (· < ·) →
    ((operation.findings parent).map Finding.line).Pairwise (· ≤ ·)
  | .write _ _, _ => pairwise_findings_leaf (by nofun) parent
  | .run _ _, _ => pairwise_findings_leaf (by nofun) parent
  | .search _ _ _ _, _ => pairwise_findings_leaf (by nofun) parent
  | .tasks header operations, ascend => by
      rw [preorder, List.map_cons, List.pairwise_cons] at ascend
      have inside := pairwise_findingsAll (some header.line) operations ascend.2
      rw [findings]
      split
      · rw [List.singleton_append, List.map_cons, List.pairwise_cons]
        refine ⟨?_, inside⟩
        intro number member
        obtain ⟨finding, found, rfl⟩ := List.mem_map.mp member
        exact Nat.le_of_lt (ascend.1 _ (line_mem_of_mem_findingsAll operations found))
      · exact inside

theorem pairwise_findingsAll (parent : Option Nat) :
    (operations : List Operation) → ((preorderAll operations).map line).Pairwise (· < ·) →
    ((findingsAll parent operations).map Finding.line).Pairwise (· ≤ ·)
  | [], _ => List.Pairwise.nil
  | first :: rest, ascend => by
      rw [preorderAll, List.map_append, List.pairwise_append] at ascend
      obtain ⟨inFirst, inRest, between⟩ := ascend
      rw [findingsAll, List.map_append, List.pairwise_append]
      refine ⟨pairwise_findings parent first inFirst, pairwise_findingsAll parent rest inRest, ?_⟩
      intro early earlier late later
      obtain ⟨above, foundAbove, rfl⟩ := List.mem_map.mp earlier
      obtain ⟨below, foundBelow, rfl⟩ := List.mem_map.mp later
      exact Nat.le_of_lt (between _ (line_mem_of_mem_findings first foundAbove) _
        (line_mem_of_mem_findingsAll rest foundBelow))
end

mutual
theorem mem_preorder_of_mem_children {group child : Operation} (inside : child ∈ group.children) :
    (operation : Operation) → group ∈ operation.preorder → child ∈ preorderAll operation.children
  | .write _ _, member => by
      rw [List.mem_singleton.mp member] at inside
      cases inside
  | .run _ _, member => by
      rw [List.mem_singleton.mp member] at inside
      cases inside
  | .search _ _ _ _, member => by
      rw [List.mem_singleton.mp member] at inside
      cases inside
  | .tasks header operations, member => by
      rcases List.mem_cons.mp member with same | deeper
      · rw [same] at inside
        exact mem_preorderAll_of_mem inside
      · exact mem_preorderAll_of_mem_children inside operations deeper

theorem mem_preorderAll_of_mem_children {group child : Operation}
    (inside : child ∈ group.children) :
    (operations : List Operation) → group ∈ preorderAll operations →
    child ∈ preorderAll operations
  | [], member => absurd member List.not_mem_nil
  | first :: rest, member => by
      rcases List.mem_append.mp member with here | later
      · have below := mem_preorder_of_mem_children inside first here
        apply List.mem_append_left
        rw [preorder_eq_cons]
        exact List.mem_cons_of_mem first below
      · exact List.mem_append_right _ (mem_preorderAll_of_mem_children inside rest later)
end

theorem not_mem_children_of_mem {operations : List Operation}
    (ascend : ((preorderAll operations).map line).Pairwise (· < ·)) {operation : Operation}
    (member : operation ∈ operations) : ∀ group ∈ preorderAll operations,
      operation ∉ group.children := by
  induction operations with
  | nil => cases member
  | cons first rest ih =>
      rw [preorderAll, List.map_append, List.pairwise_append] at ascend
      obtain ⟨inFirst, inRest, between⟩ := ascend
      rw [preorder_eq_cons, List.map_cons, List.pairwise_cons] at inFirst
      have apart : ∀ left ∈ first.preorder, ∀ right ∈ preorderAll rest, left ≠ right := by
        intro left memberLeft right memberRight same
        have below := between _ (List.mem_map_of_mem memberLeft) _ (List.mem_map_of_mem memberRight)
        rw [same] at below
        exact Nat.lt_irrefl _ below
      intro group place inside
      rcases List.mem_append.mp place with here | later
      · have deeper := mem_preorder_of_mem_children inside first here
        rcases List.mem_cons.mp member with rfl | other
        · exact Nat.lt_irrefl _ (inFirst.1 _ (List.mem_map_of_mem deeper))
        · apply apart operation _ operation (mem_preorderAll_of_mem other) rfl
          rw [preorder_eq_cons]
          exact List.mem_cons_of_mem first deeper
      · have deeper := mem_preorderAll_of_mem_children inside rest later
        rcases List.mem_cons.mp member with rfl | other
        · exact apart operation operation.mem_preorder_self operation deeper rfl
        · exact ih inRest other group later inside

theorem line_lt_of_mem_children {operations : List Operation}
    (ascend : ((preorderAll operations).map line).Pairwise (· < ·)) {group child : Operation}
    (member : group ∈ operations) (inside : child ∈ group.children) : group.line < child.line := by
  obtain ⟨left, right, rfl⟩ := List.append_of_mem member
  rw [preorderAll_append, preorderAll, List.map_append, List.map_append, List.pairwise_append,
    List.pairwise_append, preorder_eq_cons, List.map_cons, List.pairwise_cons] at ascend
  obtain ⟨_before, ⟨⟨below, _children⟩, _behind, _between⟩, _apart⟩ := ascend
  apply below
  exact List.mem_map_of_mem (mem_preorderAll_of_mem inside)

end Operation

def tasksNote (line : Nat) : Text :=
  "inside the TASKS block opened on line ".toList ++ Text.ofNat line

theorem Finding.notes_diagnostic (text : Text) (finding : Finding) :
    (finding.diagnostic text).notes = finding.parent.toList.map tasksNote := by
  obtain ⟨line, kind, message, field, parent⟩ := finding
  cases parent <;> rfl

/-- The diagnostic of a finding labels the marker of an operation of the script,
the only one on its line, and notes the marker of the tasks block around the
operation exactly when there is one. -/
structure Finding.Explained (delimiters : Delimiters) (text : Text) (operations : List Operation)
    (finding : Finding) (operation : Operation) : Prop where
  member : operation ∈ Operation.preorderAll operations
  line_eq : finding.line = operation.line
  kind_eq : finding.kind = operation.kind
  only : ∀ other ∈ Operation.preorderAll operations, other.line = finding.line → other = operation
  label : (finding.diagnostic text).label.span.Covers text finding.line
  marker : MarkerAt delimiters text finding.line finding.kind
  notes :
    ((finding.diagnostic text).notes = [] ∧
      ∀ group ∈ Operation.preorderAll operations, operation ∉ group.children) ∨
    ∃ group ∈ Operation.preorderAll operations, operation ∈ group.children ∧
      (finding.diagnostic text).notes = [tasksNote group.line] ∧ group.line < finding.line ∧
      MarkerAt delimiters text group.line .tasks

theorem Anchored.eq_of_line_eq {number : Nat} {lines : List Text} {operations : List Operation}
    (anchored : Anchored delimiters number lines operations) {left right : Operation}
    (memberLeft : left ∈ operations) (memberRight : right ∈ operations)
    (same : left.line = right.line) : left = right := by
  have distinct : (operations.map Operation.line).Nodup :=
    anchored.ascend.imp fun below => Nat.ne_of_lt below
  exact List.inj_on_of_nodup_map distinct memberLeft memberRight same

theorem Finding.Concerns.explained {text : Text} {operations : List Operation}
    (anchored : Anchored delimiters 1 (linesOf text) (Operation.preorderAll operations))
    {finding : Finding} {operation : Operation} {parent : Option Nat}
    (concerns : finding.Concerns operation parent)
    (member : operation ∈ Operation.preorderAll operations)
    (around : (parent = none ∧
        ∀ group ∈ Operation.preorderAll operations, operation ∉ group.children) ∨
      ∃ group ∈ Operation.preorderAll operations, operation ∈ group.children ∧
        parent = some group.line ∧ group.kind = .tasks ∧ group.line < operation.line) :
    finding.Explained delimiters text operations operation := by
  have marker := markerAt_of_standsIn (anchored.stand operation member)
  rw [← concerns.line_eq, ← concerns.kind_eq] at marker
  refine
    { member := member
      line_eq := concerns.line_eq
      kind_eq := concerns.kind_eq
      only := ?_
      label := covers_of_markerAt marker
      marker := marker
      notes := ?_ }
  · intro other present same
    exact anchored.eq_of_line_eq present member (same.trans concerns.line_eq)
  · rcases around with ⟨absent, outside⟩ | ⟨group, present, inside, named, tasks, above⟩
    · refine Or.inl ⟨?_, outside⟩
      rw [Finding.notes_diagnostic, concerns.parent_eq, absent]
      rfl
    · have opened := markerAt_of_standsIn (anchored.stand group present)
      rw [tasks] at opened
      rw [← concerns.line_eq] at above
      refine Or.inr ⟨group, present, inside, ?_, above, opened⟩
      rw [Finding.notes_diagnostic, concerns.parent_eq, named]
      rfl

theorem Finding.explained_of_mem_validate {text : Text} {operations : List Operation}
    (anchored : Anchored delimiters 1 (linesOf text) (Operation.preorderAll operations))
    {finding : Finding} (member : finding ∈ validate operations) :
    finding.message ≠ Violation.nestedTasks.message ∧
      ∃ operation, finding.Explained delimiters text operations operation := by
  have flat : ∀ operation ∈ operations, ∀ child ∈ operation.children, child.kind ≠ .tasks :=
    fun operation present => anchored.flat operation (Operation.mem_preorderAll_of_mem present)
  rcases Operation.concerns_of_mem_validate flat member with
    ⟨operation, present, concerns⟩ | ⟨group, present, tasks, operation, inside, concerns⟩
  · have outside := Operation.not_mem_children_of_mem anchored.ascend present
    have listed := Operation.mem_preorderAll_of_mem present
    exact ⟨concerns.message_ne, operation,
      concerns.explained anchored listed (Or.inl ⟨rfl, outside⟩)⟩
  · have listed := Operation.mem_preorderAll_of_mem present
    have deeper := Operation.mem_preorderAll_of_mem_children inside operations listed
    have above := Operation.line_lt_of_mem_children anchored.ascend present inside
    exact ⟨concerns.message_ne, operation, concerns.explained anchored deeper
      (Or.inr ⟨group, listed, inside, rfl, tasks, above⟩)⟩

/-- Every diagnostic labels a line of the text that is to blame.

For a rejection this is the line that it names, which begins like a marker; for
what is left open it is the whole marker that opened it, that of the tasks block
when one is open at the end.  For findings these are the markers of the operations
found wrong, from top to bottom, and no finding is about tasks blocks in one
another. -/
theorem diagnose_labels_markers (delimiters : Delimiters) (text : Text) :
    (∀ rejection, review delimiters text = .error rejection →
      diagnose delimiters text = [rejection.diagnostic text] ∧
      (rejection.diagnostic text).label.span.Covers text rejection.line ∧
      delimiters.opening <+: (rejection.diagnostic text).label.span.slice text ∧
      ∀ kind, rejection.fault = .unterminated kind →
        MarkerAt delimiters text rejection.line kind ∧
        (kind = .tasks ↔ ∃ last, Progress.start.advance delimiters 1 (linesOf text) = .ok last ∧
          last.tasks.isSome = true)) ∧
    (∀ result, review delimiters text = .ok result →
      diagnose delimiters text = result.findings.map (Finding.diagnostic text) ∧
      (result.findings.map Finding.line).Pairwise (· ≤ ·) ∧
      ∀ finding ∈ result.findings,
        finding.message ≠ Violation.nestedTasks.message ∧
        ∃ operation, finding.Explained delimiters text result.operations operation) := by
  constructor
  · intro rejection refused
    have unread : parse delimiters text = .error rejection := by
      unfold review at refused
      split at refused
      · cases refused
        assumption
      · cases refused
    obtain ⟨counted, ⟨line, found, lead⟩, unclosed⟩ := line_of_parse_error unread
    obtain ⟨covers, slice⟩ := covers_lineSpan counted found
    refine ⟨?_, covers, ?_, unclosed⟩
    · simp only [diagnose, refused]
    · change delimiters.opening <+: (lineSpan text rejection.line).slice text
      rw [slice]
      exact lead
  · intro result reviewed
    have parsed : ∃ operations, parse delimiters text = .ok operations ∧
        result = ⟨operations, validate operations⟩ := by
      unfold review at reviewed
      split at reviewed
      · cases reviewed
      · cases reviewed
        exact ⟨_, by assumption, rfl⟩
    obtain ⟨operations, accepted, rfl⟩ := parsed
    have anchored := Anchored.of_document (document_of_parseLines accepted)
    refine ⟨?_, Operation.pairwise_findingsAll none operations anchored.ascend, ?_⟩
    · simp only [diagnose, reviewed]
    · intro finding member
      exact Finding.explained_of_mem_validate anchored member

/-- A run without content in a tasks block is explained on its own marker, with a
note on the block; without its last line the script is refused for the block. -/
theorem diagnose_labels_markers_nested :
    review ⟨['<'], ['>']⟩ "<TASKS>\n\n<RUN>\n<END>\n<END>".toList =
      .ok ⟨[.tasks ⟨1, []⟩ [.run ⟨3, []⟩ []]],
        [⟨3, .run, Violation.emptyRun.message, none, some 1⟩]⟩ ∧
    (∃ operation, Finding.Explained ⟨['<'], ['>']⟩ "<TASKS>\n\n<RUN>\n<END>\n<END>".toList
      [.tasks ⟨1, []⟩ [.run ⟨3, []⟩ []]]
      ⟨3, .run, Violation.emptyRun.message, none, some 1⟩ operation) ∧
    review ⟨['<'], ['>']⟩ "<TASKS>\n\n<RUN>\n<END>".toList = .error ⟨1, .unterminated .tasks⟩ ∧
    MarkerAt ⟨['<'], ['>']⟩ "<TASKS>\n\n<RUN>\n<END>".toList 1 .tasks := by
  have accepted : parse ⟨['<'], ['>']⟩ "<TASKS>\n\n<RUN>\n<END>\n<END>".toList =
      .ok [.tasks ⟨1, []⟩ [.run ⟨3, []⟩ []]] := by
    decide +kernel
  have reviewed : review ⟨['<'], ['>']⟩ "<TASKS>\n\n<RUN>\n<END>\n<END>".toList =
      .ok ⟨[.tasks ⟨1, []⟩ [.run ⟨3, []⟩ []]],
        [⟨3, .run, Violation.emptyRun.message, none, some 1⟩]⟩ := by
    rw [review, accepted]
    rfl
  have unclosed : parse ⟨['<'], ['>']⟩ "<TASKS>\n\n<RUN>\n<END>".toList =
      .error ⟨1, .unterminated .tasks⟩ := by
    decide +kernel
  have refused : review ⟨['<'], ['>']⟩ "<TASKS>\n\n<RUN>\n<END>".toList =
      .error ⟨1, .unterminated .tasks⟩ := by
    rw [review, unclosed]
  obtain ⟨_diagnostics, _ascend, explained⟩ := (diagnose_labels_markers _ _).2 _ reviewed
  obtain ⟨_diagnostic, _covers, _lead, opener⟩ := (diagnose_labels_markers _ _).1 _ refused
  exact ⟨reviewed, (explained _ List.mem_cons_self).2, refused, (opener .tasks rfl).1⟩

end ChangeScript

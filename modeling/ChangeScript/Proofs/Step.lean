/-
What one line does to a reader.

The rules of `Moves` list every way in which a line changes what a reader holds,
each with the condition on the line.  Reading a line succeeds exactly when a
rule applies, so later proofs take these cases and open no definition of the
reader.
-/

import ChangeScript.Progress
import ChangeScript.Proofs.Grammar
import ChangeScript.Proofs.Marker

set_option autoImplicit false

namespace ChangeScript

open Text Grammar

variable {delimiters : Delimiters}

theorem Keyword.ofName?_eq_some_iff {name : Text} {keyword : Keyword} :
    Keyword.ofName? name = some keyword ↔ name = keyword.name := by
  constructor
  · intro found
    unfold Keyword.ofName? at found
    have named := List.find?_some found
    exact (of_decide_eq_true named).symm
  · intro same
    rw [same]
    exact Keyword.ofName?_name keyword

theorem Keyword.ofName?_eq_none_iff {name : Text} :
    Keyword.ofName? name = none ↔ ∀ keyword : Keyword, name ≠ keyword.name := by
  constructor
  · intro missing keyword same
    rw [Keyword.ofName?_eq_some_iff.mpr same] at missing
    cases missing
  · intro unknown
    cases found : Keyword.ofName? name with
    | none => rfl
    | some keyword => exact absurd (Keyword.ofName?_eq_some_iff.mp found) (unknown keyword)

namespace LineClass

theorem content_iff_noise {phase : Phase} (drops : phase.collects = false) {line : Text} :
    Content delimiters phase line ↔ Noise delimiters line := by
  unfold Content Noise
  rw [← Marker.isCandidate_iff, LineClass.ofLine]
  cases candidate : Marker.isCandidate delimiters line with
  | false => simp
  | true =>
      simp only [if_true, drops, Bool.false_and, Bool.false_eq_true, if_false, not_true_eq_false,
        iff_false]
      split
      · exact fun same => by cases same
      · unfold ofFragment
        simp only [drops, Bool.false_eq_true, if_false]
        split
        · split <;> exact fun same => by cases same
        · exact fun same => by cases same

theorem ofLine_of_marks {phase : Phase} {keyword : Keyword} {arguments line : Text}
    (marks : Marks delimiters keyword arguments line) :
    LineClass.ofLine delimiters phase line = .ok (.marker ⟨keyword.name, arguments⟩) := by
  have found : Marker.ofLine? delimiters line = some ⟨keyword.name, arguments⟩ := marks
  rw [LineClass.ofLine, if_pos (Marker.isCandidate_of_ofLine? found)]
  simp [found, Keyword.ofName?_name]

theorem ofLine?_of_ofLine_marker {phase : Phase} {line : Text} {found : Marker}
    (classified : LineClass.ofLine delimiters phase line = .ok (.marker found)) :
    Marker.ofLine? delimiters line = some found := by
  unfold LineClass.ofLine at classified
  split at classified
  · split at classified
    · next marker read =>
        split at classified
        · cases classified
        · cases classified
          exact read
    · unfold ofFragment at classified
      simp only at classified
      split at classified
      · split at classified
        · cases classified
        · split at classified <;> cases classified
      · split at classified <;> cases classified
  · cases classified

end LineClass

/-- What an operation that is no tasks block has collected when it is opened. -/
def Draft.begin? : Kind → Option Draft
  | .write => some (.write [])
  | .run => some (.run [])
  | .search => some (.searchPattern [])
  | .tasks => none

namespace Progress

/-- What a line with the given number can do. -/
inductive Moves (delimiters : Delimiters) (number : Nat) (line : Text) :
    Progress → Progress → Prop
  | skip {complete : List Operation} {tasks : Option OpenTasks}
      (outside : Noise delimiters line) :
      Moves delimiters number line ⟨complete, tasks, none⟩ ⟨complete, tasks, none⟩
  | collect {complete : List Operation} {tasks : Option OpenTasks} {header : Header}
      {draft : Draft} (inside : Content delimiters draft.phase line) :
      Moves delimiters number line ⟨complete, tasks, some ⟨header, draft⟩⟩
        ⟨complete, tasks, some ⟨header, draft.push line⟩⟩
  | openLeaf {complete : List Operation} {tasks : Option OpenTasks} {kind : Kind} {draft : Draft}
      {attributes : List Attribute} (begins : Draft.begin? kind = some draft)
      (opens : Opens delimiters kind attributes line) :
      Moves delimiters number line ⟨complete, tasks, none⟩
        ⟨complete, tasks, some ⟨⟨number, attributes⟩, draft⟩⟩
  | openTasks {complete : List Operation} {attributes : List Attribute}
      (opens : Opens delimiters .tasks attributes line) :
      Moves delimiters number line ⟨complete, none, none⟩
        ⟨complete, some ⟨⟨number, attributes⟩, []⟩, none⟩
  | enterTo {complete : List Operation} {tasks : Option OpenTasks} {header : Header}
      {pattern : List Text} (divides : Divides delimiters .upTo line) :
      Moves delimiters number line ⟨complete, tasks, some ⟨header, .searchPattern pattern⟩⟩
        ⟨complete, tasks, some ⟨header, .searchTo pattern []⟩⟩
  | replacePattern {complete : List Operation} {tasks : Option OpenTasks} {header : Header}
      {pattern : List Text} (divides : Divides delimiters .replace line) :
      Moves delimiters number line ⟨complete, tasks, some ⟨header, .searchPattern pattern⟩⟩
        ⟨complete, tasks, some ⟨header, .searchReplacement pattern none []⟩⟩
  | replaceRange {complete : List Operation} {tasks : Option OpenTasks} {header : Header}
      {pattern upTo : List Text} (divides : Divides delimiters .replace line) :
      Moves delimiters number line ⟨complete, tasks, some ⟨header, .searchTo pattern upTo⟩⟩
        ⟨complete, tasks, some ⟨header, .searchReplacement pattern (some upTo) []⟩⟩
  | closeLeaf {complete : List Operation} {header : Header} {draft : Draft}
      (admits : draft.phase.admits .close = true) (closes : Closes delimiters line) :
      Moves delimiters number line ⟨complete, none, some ⟨header, draft⟩⟩
        ⟨complete ++ [draft.complete header], none, none⟩
  | closeNested {complete operations : List Operation} {group header : Header} {draft : Draft}
      (admits : draft.phase.admits .close = true) (closes : Closes delimiters line) :
      Moves delimiters number line ⟨complete, some ⟨group, operations⟩, some ⟨header, draft⟩⟩
        ⟨complete, some ⟨group, operations ++ [draft.complete header]⟩, none⟩
  | closeTasks {complete operations : List Operation} {group : Header}
      (closes : Closes delimiters line) :
      Moves delimiters number line ⟨complete, some ⟨group, operations⟩, none⟩
        ⟨complete ++ [.tasks group operations], none, none⟩

/-! ### A rule behind every step -/

private theorem collects_phase (complete : List Operation) (tasks : Option OpenTasks)
    (inner : OpenOperation) :
    (⟨complete, tasks, some inner⟩ : Progress).phase.collects = true := by
  obtain ⟨header, draft⟩ := inner
  cases draft <;> rfl

private theorem not_collects_phase (complete : List Operation) (tasks : Option OpenTasks) :
    (⟨complete, tasks, none⟩ : Progress).phase.collects = false := by
  cases tasks <;> rfl

private theorem admits_of_require {progress : Progress} {keyword : Keyword}
    (granted : progress.require keyword = .ok ()) :
    progress.phase ≠ .idle ∧ progress.phase.admits keyword = true := by
  unfold require at granted
  split at granted
  · cases granted
  · next active =>
      split at granted
      · next admits => exact ⟨active, admits⟩
      · cases granted

private theorem require_of_admits {progress : Progress} {keyword : Keyword}
    (active : progress.phase ≠ .idle) (admits : progress.phase.admits keyword = true) :
    progress.require keyword = .ok () := by
  rw [require, if_neg active, if_pos admits]

private theorem moves_of_openKind {number : Nat} {line arguments : Text} {kind : Kind}
    {progress next : Progress} (marks : Marks delimiters (.opens kind) arguments line)
    (taken : progress.openKind number kind arguments = .ok next) :
    Moves delimiters number line progress next := by
  obtain ⟨complete, tasks, operation⟩ := progress
  unfold openKind at taken
  split at taken
  · cases taken
  · next free =>
      cases operation with
      | some inner =>
          rw [if_pos (collects_phase complete tasks inner)] at taken
          cases taken
      | none =>
          rw [if_neg (Bool.eq_false_iff.mp (not_collects_phase complete tasks))] at taken
          split at taken
          · cases taken
          · next attributes read =>
              have opens : Opens delimiters kind attributes line := ⟨arguments, marks, read⟩
              cases kind with
              | write => cases taken; exact .openLeaf rfl opens
              | run => cases taken; exact .openLeaf rfl opens
              | search => cases taken; exact .openLeaf rfl opens
              | tasks =>
                  cases taken
                  cases tasks with
                  | none => exact .openTasks opens
                  | some group => exact absurd ⟨rfl, rfl⟩ free

private theorem moves_of_enterTo {number : Nat} {line : Text} {progress next : Progress}
    (divides : Divides delimiters .upTo line)
    (taken : progress.enter .upTo Draft.enterTo = .ok next) :
    Moves delimiters number line progress next := by
  obtain ⟨complete, tasks, operation⟩ := progress
  unfold enter at taken
  split at taken
  · cases taken
  · next granted =>
      obtain ⟨_active, admits⟩ := admits_of_require granted
      cases taken
      cases operation with
      | none => cases tasks <;> cases admits
      | some inner =>
          obtain ⟨header, draft⟩ := inner
          cases draft with
          | searchPattern pattern => exact .enterTo divides
          | write content => cases admits
          | run content => cases admits
          | searchTo pattern upTo => cases admits
          | searchReplacement pattern upTo replacement => cases admits

private theorem moves_of_enterReplacement {number : Nat} {line : Text} {progress next : Progress}
    (divides : Divides delimiters .replace line)
    (taken : progress.enter .replace Draft.enterReplacement = .ok next) :
    Moves delimiters number line progress next := by
  obtain ⟨complete, tasks, operation⟩ := progress
  unfold enter at taken
  split at taken
  · cases taken
  · next granted =>
      obtain ⟨_active, admits⟩ := admits_of_require granted
      cases taken
      cases operation with
      | none => cases tasks <;> cases admits
      | some inner =>
          obtain ⟨header, draft⟩ := inner
          cases draft with
          | searchPattern pattern => exact .replacePattern divides
          | searchTo pattern upTo => exact .replaceRange divides
          | write content => cases admits
          | run content => cases admits
          | searchReplacement pattern upTo replacement => cases admits

private theorem moves_of_close {number : Nat} {line arguments : Text} {progress next : Progress}
    (marks : Marks delimiters .close arguments line)
    (taken : progress.close arguments = .ok next) :
    Moves delimiters number line progress next := by
  obtain ⟨complete, tasks, operation⟩ := progress
  unfold close at taken
  split at taken
  · cases taken
  · next bare =>
      split at taken
      · cases taken
      · next granted =>
          obtain ⟨active, admits⟩ := admits_of_require granted
          have closes : Closes delimiters line := by
            by_cases empty : arguments = []
            · rw [empty] at marks
              exact marks
            · exact absurd ⟨active, empty⟩ bare
          cases taken
          cases operation with
          | some inner =>
              cases tasks with
              | none => exact .closeLeaf admits closes
              | some group => exact .closeNested admits closes
          | none =>
              cases tasks with
              | none => exact absurd rfl active
              | some group => exact .closeTasks closes

theorem moves_of_step {number : Nat} {line : Text} {progress next : Progress}
    (taken : progress.step delimiters number line = .ok next) :
    Moves delimiters number line progress next := by
  unfold step at taken
  split at taken
  · cases taken
  · next content =>
      cases taken
      obtain ⟨complete, tasks, operation⟩ := progress
      cases operation with
      | none =>
          exact .skip ((LineClass.content_iff_noise (not_collects_phase complete tasks)).mp content)
      | some inner => exact .collect content
  · next found marker =>
      obtain ⟨name, arguments⟩ := found
      have read := LineClass.ofLine?_of_ofLine_marker marker
      unfold follow at taken
      split at taken
      · next kind named =>
          cases Keyword.ofName?_eq_some_iff.mp named
          exact moves_of_openKind read taken
      · next named =>
          cases Keyword.ofName?_eq_some_iff.mp named
          exact moves_of_enterTo ⟨arguments, read⟩ taken
      · next named =>
          cases Keyword.ofName?_eq_some_iff.mp named
          exact moves_of_enterReplacement ⟨arguments, read⟩ taken
      · next named =>
          cases Keyword.ofName?_eq_some_iff.mp named
          exact moves_of_close read taken
      · cases taken

/-! ### A step for every rule -/

private theorem step_marks {number : Nat} {line arguments : Text} {keyword : Keyword}
    (progress : Progress) (marks : Marks delimiters keyword arguments line) :
    progress.step delimiters number line =
      progress.follow number ⟨keyword.name, arguments⟩ := by
  rw [step, LineClass.ofLine_of_marks marks]

private theorem step_closes {number : Nat} {line : Text} {progress : Progress}
    (closes : Closes delimiters line) (active : progress.phase ≠ .idle)
    (admits : progress.phase.admits .close = true) :
    progress.step delimiters number line = .ok progress.closeInnermost := by
  rw [step_marks progress closes, follow, Keyword.ofName?_name]
  simp only [close, ne_eq, not_true_eq_false, and_false, if_false,
    require_of_admits active admits]

private theorem step_divides {number : Nat} {line arguments : Text} {progress : Progress}
    {keyword : Keyword} {change : Draft → Draft}
    (marks : Marks delimiters keyword arguments line)
    (followed : progress.follow number ⟨keyword.name, arguments⟩ = progress.enter keyword change)
    (active : progress.phase ≠ .idle) (admits : progress.phase.admits keyword = true) :
    progress.step delimiters number line = .ok (progress.mapDraft change) := by
  rw [step_marks progress marks, followed, enter, require_of_admits active admits]

private theorem active_of_some {complete : List Operation} {tasks : Option OpenTasks}
    {inner : OpenOperation} : (⟨complete, tasks, some inner⟩ : Progress).phase ≠ .idle := by
  intro idle
  have collects := collects_phase complete tasks inner
  rw [idle] at collects
  cases collects

theorem step_of_moves {number : Nat} {line : Text} {progress next : Progress}
    (move : Moves delimiters number line progress next) :
    progress.step delimiters number line = .ok next := by
  cases move with
  | @skip complete tasks outside =>
      have content := (LineClass.content_iff_noise (not_collects_phase complete tasks)).mpr outside
      rw [step, content]
      rfl
  | collect inside =>
      have content : LineClass.ofLine delimiters _ line = .ok .content := inside
      simp only [step, phase, content]
      rfl
  | @openLeaf complete tasks kind draft attributes begins opens =>
      obtain ⟨arguments, marks, read⟩ := opens
      have leaf : kind ≠ .tasks := by
        intro same
        rw [same] at begins
        cases begins
      rw [step_marks _ marks, follow, Keyword.ofName?_name]
      simp only [openKind, leaf, false_and, if_false, not_collects_phase, Bool.false_eq_true, read]
      cases kind <;> cases begins <;> rfl
  | openTasks opens =>
      obtain ⟨arguments, marks, read⟩ := opens
      rw [step_marks _ marks, follow, Keyword.ofName?_name]
      simp only [openKind, Option.isSome_none, Bool.false_eq_true, and_false, if_false,
        not_collects_phase, read]
  | enterTo divides =>
      obtain ⟨arguments, marks⟩ := divides
      exact step_divides marks rfl active_of_some rfl
  | replacePattern divides =>
      obtain ⟨arguments, marks⟩ := divides
      exact step_divides marks rfl active_of_some rfl
  | replaceRange divides =>
      obtain ⟨arguments, marks⟩ := divides
      exact step_divides marks rfl active_of_some rfl
  | closeLeaf admits closes => exact step_closes closes active_of_some admits
  | closeNested admits closes => exact step_closes closes active_of_some admits
  | closeTasks closes => exact step_closes closes (fun idle => by cases idle) rfl

theorem advance_cons_of_moves {number : Nat} {line : Text} {progress next : Progress}
    (move : Moves delimiters number line progress next) (rest : List Text) :
    progress.advance delimiters number (line :: rest) =
      next.advance delimiters (number + 1) rest := by
  rw [advance, step_of_moves move]

theorem moves_of_advance_cons {number : Nat} {line : Text} {rest : List Text}
    {progress last : Progress}
    (taken : progress.advance delimiters number (line :: rest) = .ok last) :
    ∃ next, Moves delimiters number line progress next ∧
      next.advance delimiters (number + 1) rest = .ok last := by
  unfold advance at taken
  split at taken
  · cases taken
  · next next step => exact ⟨next, moves_of_step step, taken⟩

theorem advance_append {number : Nat} {left : List Text} {progress next : Progress}
    (taken : progress.advance delimiters number left = .ok next) (right : List Text) :
    progress.advance delimiters number (left ++ right) =
      next.advance delimiters (number + left.length) right := by
  induction left generalizing number progress with
  | nil =>
      cases taken
      rfl
  | cons line rest ih =>
      obtain ⟨after, move, later⟩ := moves_of_advance_cons taken
      rw [List.cons_append, advance_cons_of_moves move, ih later, List.length_cons,
        Nat.add_assoc, Nat.add_comm 1]

end Progress

end ChangeScript

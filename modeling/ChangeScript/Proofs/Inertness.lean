/-
Lines outside operations.

Where no operation is open, a line that does not begin like a marker changes
nothing that a reader holds.  So such lines can be put into a script or taken
out of it: the answer stays the same but for the numbers of the lines behind
them, whether the script is accepted or refused.
-/

import ChangeScript.Proofs.Position
import ChangeScript.Proofs.Renumbering

set_option autoImplicit false

namespace ChangeScript

open Text Grammar

variable {delimiters : Delimiters}

namespace Operation

variable {move : Nat → Nat}

mutual
theorem renumber_eq_self :
    (operation : Operation) →
    (∀ inner ∈ operation.preorder, move inner.line = inner.line) →
    operation.renumber move = operation
  | .write header content, stay => by
      have same : move header.line = header.line := stay _ List.mem_cons_self
      rw [renumber, Header.renumber, same]
  | .run header content, stay => by
      have same : move header.line = header.line := stay _ List.mem_cons_self
      rw [renumber, Header.renumber, same]
  | .search header pattern upTo replacement, stay => by
      have same : move header.line = header.line := stay _ List.mem_cons_self
      rw [renumber, Header.renumber, same]
  | .tasks header operations, stay => by
      have same : move header.line = header.line := stay _ List.mem_cons_self
      have inside := renumberAll_eq_self operations
        fun inner member => stay inner (List.mem_cons_of_mem _ member)
      rw [renumber, Header.renumber, same, inside]

theorem renumberAll_eq_self :
    (operations : List Operation) →
    (∀ inner ∈ preorderAll operations, move inner.line = inner.line) →
    renumberAll move operations = operations
  | [], _ => rfl
  | first :: rest, stay => by
      rw [renumberAll,
        renumber_eq_self first fun inner member => stay inner (List.mem_append_left _ member),
        renumberAll_eq_self rest fun inner member => stay inner (List.mem_append_right _ member)]
end

end Operation

namespace Progress

variable {move : Nat → Nat}

theorem relocate_eq_self {progress : Progress}
    (stay : ∀ operation ∈ Operation.preorderAll progress.held,
      move operation.line = operation.line) : progress.relocate [] move = progress := by
  obtain ⟨complete, tasks, operation⟩ := progress
  simp only [held, Operation.preorderAll_append, List.forall_mem_append] at stay
  obtain ⟨finished, group, current⟩ := stay
  have completeStays := Operation.renumberAll_eq_self complete finished
  have tasksStays : tasks.map (OpenTasks.renumber move) = tasks := by
    cases tasks with
    | none => rfl
    | some open' =>
        have whole := Operation.renumberAll_eq_self [open'.asOperation] group
        injection whole with same
        injection same with header operations
        rw [Option.map_some, OpenTasks.renumber, header, operations]
  have operationStays : operation.map (OpenOperation.renumber move) = operation := by
    cases operation with
    | none => rfl
    | some inner =>
        have same : move inner.asOperation.line = inner.asOperation.line :=
          current inner.asOperation (by
            rw [Option.toList_some, List.map_singleton, Operation.preorderAll_singleton,
              Operation.preorder_eq_cons]
            exact List.mem_cons_self)
        rw [inner.line_asOperation] at same
        rw [Option.map_some, OpenOperation.renumber, Header.renumber, same]
  rw [relocate, completeStays, tasksStays, operationStays, List.nil_append]

theorem operation_eq_none_of_phase {progress : Progress}
    (outside : progress.phase = .idle ∨ progress.phase = .tasks) : progress.operation = none := by
  obtain ⟨complete, tasks, operation⟩ := progress
  cases operation with
  | none => rfl
  | some inner =>
      obtain ⟨header, draft⟩ := inner
      cases draft <;> rcases outside with same | same <;> cases same

theorem advance_noise {number : Nat} {lines : List Text} {progress : Progress}
    (outside : progress.operation = none) (noise : ∀ line ∈ lines, Noise delimiters line) :
    progress.advance delimiters number lines = .ok progress := by
  obtain ⟨complete, tasks, operation⟩ := progress
  cases outside
  induction lines generalizing number with
  | nil => rfl
  | cons line rest ih =>
      obtain ⟨first, later⟩ := List.forall_mem_cons.mp noise
      rw [advance_cons_of_moves (.skip first), ih later]

end Progress

/-- The number of a line when `count` lines are put in behind the first `bound`. -/
def numberBehind (bound count line : Nat) : Nat := if bound < line then line + count else line

theorem numberBehind_of_lt {bound count line : Nat} (behind : bound < line) :
    numberBehind bound count line = line + count := by
  rw [numberBehind, if_pos behind]

theorem numberBehind_of_le {bound count line : Nat} (before : line ≤ bound) :
    numberBehind bound count line = line := by
  rw [numberBehind, if_neg (Nat.not_lt.mpr before)]

theorem parseLines_insert {before noise : List Text} {reached : Progress}
    (taken : Progress.start.advance delimiters 1 before = .ok reached)
    (outside : reached.phase = .idle ∨ reached.phase = .tasks)
    (inert : ∀ line ∈ noise, Noise delimiters line) (behind : List Text) :
    parseLines delimiters (before ++ noise ++ behind) =
      ((parseLines delimiters (before ++ behind)).map
        (Operation.renumberAll (numberBehind before.length noise.length))).mapError
        (Rejection.renumber (numberBehind before.length noise.length)) := by
  have idle := Progress.operation_eq_none_of_phase outside
  have skipped := @Progress.advance_noise delimiters (1 + before.length) noise reached idle inert
  have throughNoise : Progress.start.advance delimiters 1 (before ++ noise) = .ok reached := by
    rw [Progress.advance_append taken, skipped]
  have stay : reached.relocate [] (numberBehind before.length noise.length) = reached := by
    apply Progress.relocate_eq_self
    intro operation member
    have ends := ((Progress.anchored_of_advance taken).stand operation member).ends
    exact numberBehind_of_le (by omega)
  have inRow : ∀ other, 1 + before.length ≤ other →
      numberBehind before.length noise.length (other + 1) =
        numberBehind before.length noise.length other + 1 := by
    intro other after
    rw [numberBehind_of_lt (by omega), numberBehind_of_lt (by omega)]
    omega
  have next : 1 + (before ++ noise).length =
      numberBehind before.length noise.length (1 + before.length) := by
    rw [numberBehind_of_lt (by omega), List.length_append]
    omega
  have rest := @Progress.advance_relocate delimiters [] _ _ inRow behind reached
  rw [stay] at rest
  unfold parseLines
  rw [Progress.advance_append throughNoise, Progress.advance_append taken, next, rest]
  cases reached.advance delimiters (1 + before.length) behind with
  | error rejection => rfl
  | ok last => exact last.finish_relocate

theorem parse_joinFeeds {lines : List Text} (present : lines ≠ [])
    (unbroken : ∀ line ∈ lines, Unbroken line) :
    parse delimiters (joinFeeds lines) = parseLines delimiters lines := by
  rw [parse, linesOf_joinFeeds present unbroken]

private theorem parse_joinFeeds_noise {noise : List Text} (present : delimiters.opening ≠ [])
    (unbroken : ∀ line ∈ noise, Unbroken line) (inert : ∀ line ∈ noise, Noise delimiters line) :
    parse delimiters (joinFeeds noise) = .ok [] := by
  cases noise with
  | nil =>
      exact parseLines_of_document (Sequence.singleNoise fun lead =>
        present (List.prefix_nil.mp lead))
  | cons first rest =>
      rw [parse_joinFeeds (List.cons_ne_nil first rest) unbroken, parseLines_eq_ok_iff]
      exact Progress.advance_noise rfl inert

private theorem numberBehind_zero (bound line : Nat) : numberBehind bound 0 line = line := by
  rw [numberBehind, Nat.add_zero, ite_self]

private theorem renumber_numberBehind_zero (bound : Nat)
    (answer : Except Rejection (List Operation)) :
    (answer.map (Operation.renumberAll (numberBehind bound 0))).mapError
      (Rejection.renumber (numberBehind bound 0)) = answer := by
  cases answer with
  | error rejection =>
      have same : rejection.renumber (numberBehind bound 0) = rejection := by
        rw [Rejection.renumber, numberBehind_zero]
      exact congrArg Except.error same
  | ok operations =>
      exact congrArg Except.ok
        (Operation.renumberAll_eq_self operations fun _ _ => numberBehind_zero bound _)

private theorem parse_joinFeeds_insert {before noise : List Text} {reached : Progress}
    (taken : Progress.start.advance delimiters 1 before = .ok reached)
    (outside : reached.phase = .idle ∨ reached.phase = .tasks)
    (inert : ∀ line ∈ noise, Noise delimiters line) (behind : List Text)
    (unbroken : ∀ line ∈ before ++ noise ++ behind, Unbroken line) :
    parse delimiters (joinFeeds (before ++ noise ++ behind)) =
      ((parse delimiters (joinFeeds (before ++ behind))).map
        (Operation.renumberAll (numberBehind before.length noise.length))).mapError
        (Rejection.renumber (numberBehind before.length noise.length)) := by
  cases noise with
  | nil =>
      rw [List.append_nil, List.length_nil, renumber_numberBehind_zero]
  | cons first rest =>
      obtain ⟨unbrokenFront, unbrokenBehind⟩ := List.forall_mem_append.mp unbroken
      obtain ⟨unbrokenBefore, unbrokenNoise⟩ := List.forall_mem_append.mp unbrokenFront
      by_cases alone : before ++ behind = []
      · obtain ⟨rfl, rfl⟩ := List.append_eq_nil_iff.mp alone
        have present : delimiters.opening ≠ [] := by
          intro empty
          apply inert first List.mem_cons_self
          rw [empty]
          exact List.nil_prefix
        have longer := parse_joinFeeds_noise present unbrokenNoise inert
        have shorter := @parse_joinFeeds_noise delimiters [] present
          (fun _ member => absurd member List.not_mem_nil)
          (fun _ member => absurd member List.not_mem_nil)
        rw [List.nil_append, List.append_nil, List.append_nil, longer, shorter]
        rfl
      · have unbrokenOthers : ∀ line ∈ before ++ behind, Unbroken line :=
          List.forall_mem_append.mpr ⟨unbrokenBefore, unbrokenBehind⟩
        have present : before ++ first :: rest ++ behind ≠ [] := by simp
        rw [parse_joinFeeds present unbroken, parse_joinFeeds alone unbrokenOthers]
        exact parseLines_insert taken outside inert behind

/-- Lines that do not begin like a marker, put in where no operation collects
lines, change nothing but the numbers of the lines behind them: those of
operations at any depth and that of a fault.  Numbers before them stay. -/
theorem parse_insert_noise {before noise behind : List Text} {reached : Progress}
    (unbroken : ∀ line ∈ before ++ noise ++ behind, Unbroken line)
    (taken : Progress.start.advance delimiters 1 before = .ok reached)
    (outside : reached.phase = .idle ∨ reached.phase = .tasks)
    (inert : ∀ line ∈ noise, ¬delimiters.opening <+: line) :
    (∀ operations, parse delimiters (joinFeeds (before ++ behind)) = .ok operations →
      parse delimiters (joinFeeds (before ++ noise ++ behind)) =
        .ok (Operation.renumberAll (numberBehind before.length noise.length) operations)) ∧
    (∀ number fault, parse delimiters (joinFeeds (before ++ behind)) = .error ⟨number, fault⟩ →
      parse delimiters (joinFeeds (before ++ noise ++ behind)) =
        .error ⟨numberBehind before.length noise.length number, fault⟩) := by
  have answer := parse_joinFeeds_insert taken outside inert behind unbroken
  constructor
  · intro operations accepted
    rw [answer, accepted]
    rfl
  · intro number fault refused
    rw [answer, refused]
    rfl

/-- Two lines put into an open tasks block move the run behind them and leave the
block where it is, also where the block is what the script is refused for. -/
theorem parse_insert_noise_in_tasks :
    Progress.start.advance .standard 1 ["<---TASKS--->".toList] =
      .ok ⟨[], some ⟨⟨1, []⟩, []⟩, none⟩ ∧
    parse .standard (joinFeeds (["<---TASKS--->".toList] ++ ["a".toList, []] ++
        ["<---RUN--->".toList, "<---END--->".toList, "<---END--->".toList])) =
      .ok [.tasks ⟨1, []⟩ [.run ⟨4, []⟩ []]] ∧
    parse .standard (joinFeeds (["<---TASKS--->".toList] ++ ["a".toList, []] ++
        ["<---RUN--->".toList])) = .error ⟨1, .unterminated .tasks⟩ ∧
    parse .standard (joinFeeds (["<---TASKS--->".toList] ++ ["a".toList, []] ++
        ["<---TO--->".toList])) = .error ⟨4, .invalidMarker .upTo .tasks⟩ := by
  have marks : Marks .standard (.opens .tasks) [] "<---TASKS--->".toList := by
    change Marker.ofLine? _ _ = _
    decide
  have taken : Progress.start.advance .standard 1 ["<---TASKS--->".toList] =
      .ok ⟨[], some ⟨⟨1, []⟩, []⟩, none⟩ :=
    Progress.advance_cons_of_moves (.openTasks ⟨[], marks, by cbv⟩) []
  have inert : ∀ line ∈ ["a".toList, []], ¬Delimiters.standard.opening <+: line := by decide
  have closed := @parse_insert_noise .standard ["<---TASKS--->".toList] ["a".toList, []]
    ["<---RUN--->".toList, "<---END--->".toList, "<---END--->".toList] _
    (by decide) taken (Or.inr rfl) inert
  have unclosed := @parse_insert_noise .standard ["<---TASKS--->".toList] ["a".toList, []]
    ["<---RUN--->".toList] _ (by decide) taken (Or.inr rfl) inert
  have divided := @parse_insert_noise .standard ["<---TASKS--->".toList] ["a".toList, []]
    ["<---TO--->".toList] _ (by decide) taken (Or.inr rfl) inert
  exact ⟨taken, closed.1 [.tasks ⟨1, []⟩ [.run ⟨2, []⟩ []]] (by decide +kernel),
    unclosed.2 1 (.unterminated .tasks) (by decide +kernel),
    divided.2 2 (.invalidMarker .upTo .tasks) (by decide +kernel)⟩

end ChangeScript

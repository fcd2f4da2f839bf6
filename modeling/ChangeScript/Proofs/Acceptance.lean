/-
The reader accepts exactly the scripts of the grammar.

Soundness follows a run line by line: what a reader holds is always the
beginning of a derivation, namely a finished sequence of blocks, an open tasks
block and an open operation with what each has collected.  Completeness runs
the reader over a derivation.
-/

import ChangeScript.Proofs.Step

set_option autoImplicit false

namespace ChangeScript

open Text Grammar

variable {delimiters : Delimiters}

/-- The lines read of a leaf block whose opening marker has the given number,
and the open operation that they amount to. -/
inductive Begun (delimiters : Delimiters) (number : Nat) : List Text → OpenOperation → Prop
  | write {opener : Text} {attributes : List Attribute} {content : List Text}
      (opens : Opens delimiters .write attributes opener)
      (inside : ∀ line ∈ content, Content delimiters .write line) :
      Begun delimiters number (opener :: content) ⟨⟨number, attributes⟩, .write content⟩
  | run {opener : Text} {attributes : List Attribute} {content : List Text}
      (opens : Opens delimiters .run attributes opener)
      (inside : ∀ line ∈ content, Content delimiters .run line) :
      Begun delimiters number (opener :: content) ⟨⟨number, attributes⟩, .run content⟩
  | pattern {opener : Text} {attributes : List Attribute} {pattern : List Text}
      (opens : Opens delimiters .search attributes opener)
      (inside : ∀ line ∈ pattern, Content delimiters .searchPattern line) :
      Begun delimiters number (opener :: pattern) ⟨⟨number, attributes⟩, .searchPattern pattern⟩
  | range {opener extender : Text} {attributes : List Attribute} {pattern upTo : List Text}
      (opens : Opens delimiters .search attributes opener)
      (inside : ∀ line ∈ pattern, Content delimiters .searchPattern line)
      (ranges : Divides delimiters .upTo extender)
      (between : ∀ line ∈ upTo, Content delimiters .searchTo line) :
      Begun delimiters number (opener :: (pattern ++ extender :: upTo))
        ⟨⟨number, attributes⟩, .searchTo pattern upTo⟩
  | replacePattern {opener replacer : Text} {attributes : List Attribute}
      {pattern replacement : List Text}
      (opens : Opens delimiters .search attributes opener)
      (inside : ∀ line ∈ pattern, Content delimiters .searchPattern line)
      (replaces : Divides delimiters .replace replacer)
      (behind : ∀ line ∈ replacement, Content delimiters .searchReplacement line) :
      Begun delimiters number (opener :: (pattern ++ replacer :: replacement))
        ⟨⟨number, attributes⟩, .searchReplacement pattern none replacement⟩
  | replaceRange {opener extender replacer : Text} {attributes : List Attribute}
      {pattern upTo replacement : List Text}
      (opens : Opens delimiters .search attributes opener)
      (inside : ∀ line ∈ pattern, Content delimiters .searchPattern line)
      (ranges : Divides delimiters .upTo extender)
      (between : ∀ line ∈ upTo, Content delimiters .searchTo line)
      (replaces : Divides delimiters .replace replacer)
      (behind : ∀ line ∈ replacement, Content delimiters .searchReplacement line) :
      Begun delimiters number (opener :: (pattern ++ extender :: (upTo ++ replacer :: replacement)))
        ⟨⟨number, attributes⟩, .searchReplacement pattern (some upTo) replacement⟩

private theorem no_content (phase : Phase) :
    ∀ line ∈ ([] : List Text), Content delimiters phase line :=
  fun _ member => absurd member List.not_mem_nil

private theorem content_snoc {phase : Phase} {lines : List Text} {line : Text}
    (inside : ∀ other ∈ lines, Content delimiters phase other)
    (last : Content delimiters phase line) :
    ∀ other ∈ lines ++ [line], Content delimiters phase other := by
  intro other member
  rcases List.mem_append.mp member with before | same
  · exact inside other before
  · rw [List.mem_singleton.mp same]
    exact last

theorem Begun.start {number : Nat} {kind : Kind} {draft : Draft} {attributes : List Attribute}
    {line : Text} (begins : Draft.begin? kind = some draft)
    (opens : Opens delimiters kind attributes line) :
    Begun delimiters number [line] ⟨⟨number, attributes⟩, draft⟩ := by
  cases kind with
  | write => cases begins; exact .write opens (no_content _)
  | run => cases begins; exact .run opens (no_content _)
  | search => cases begins; exact .pattern opens (no_content _)
  | tasks => cases begins

theorem Begun.push {number : Nat} {lines : List Text} {header : Header} {draft : Draft}
    {line : Text} (begun : Begun delimiters number lines ⟨header, draft⟩)
    (content : Content delimiters draft.phase line) :
    Begun delimiters number (lines ++ [line]) ⟨header, draft.push line⟩ := by
  cases begun with
  | write opens inside => exact .write opens (content_snoc inside content)
  | run opens inside => exact .run opens (content_snoc inside content)
  | pattern opens inside => exact .pattern opens (content_snoc inside content)
  | range opens inside ranges between =>
      rw [List.cons_append, List.append_assoc]
      exact .range opens inside ranges (content_snoc between content)
  | replacePattern opens inside replaces behind =>
      rw [List.cons_append, List.append_assoc]
      exact .replacePattern opens inside replaces (content_snoc behind content)
  | replaceRange opens inside ranges between replaces behind =>
      rw [List.cons_append, List.append_assoc, List.cons_append, List.append_assoc]
      exact .replaceRange opens inside ranges between replaces (content_snoc behind content)

theorem Begun.close {number : Nat} {lines : List Text} {header : Header} {draft : Draft}
    {line : Text} (begun : Begun delimiters number lines ⟨header, draft⟩)
    (admits : draft.phase.admits .close = true) (closes : Closes delimiters line) :
    Leaf delimiters number (lines ++ [line]) (draft.complete header) := by
  cases begun with
  | write opens inside => exact .write opens inside closes
  | run opens inside => exact .run opens inside closes
  | pattern opens inside => exact .search opens inside closes
  | range opens inside ranges between => cases admits
  | replacePattern opens inside replaces behind =>
      rw [List.cons_append, List.append_assoc]
      exact .replace opens inside replaces behind closes
  | replaceRange opens inside ranges between replaces behind =>
      rw [List.cons_append, List.append_assoc, List.cons_append, List.append_assoc]
      exact .range opens inside ranges between replaces behind closes

theorem Begun.enterTo {number : Nat} {lines pattern : List Text} {header : Header} {line : Text}
    (begun : Begun delimiters number lines ⟨header, .searchPattern pattern⟩)
    (divides : Divides delimiters .upTo line) :
    Begun delimiters number (lines ++ [line]) ⟨header, .searchTo pattern []⟩ := by
  cases begun with
  | pattern opens inside => exact .range opens inside divides (no_content _)

theorem Begun.enterReplacement {number : Nat} {lines pattern : List Text} {header : Header}
    {line : Text} (begun : Begun delimiters number lines ⟨header, .searchPattern pattern⟩)
    (divides : Divides delimiters .replace line) :
    Begun delimiters number (lines ++ [line]) ⟨header, .searchReplacement pattern none []⟩ := by
  cases begun with
  | pattern opens inside => exact .replacePattern opens inside divides (no_content _)

theorem Begun.endRange {number : Nat} {lines pattern upTo : List Text} {header : Header}
    {line : Text} (begun : Begun delimiters number lines ⟨header, .searchTo pattern upTo⟩)
    (divides : Divides delimiters .replace line) :
    Begun delimiters number (lines ++ [line])
      ⟨header, .searchReplacement pattern (some upTo) []⟩ := by
  cases begun with
  | range opens inside ranges between =>
      rw [List.cons_append, List.append_assoc]
      exact .replaceRange opens inside ranges between divides (no_content _)

/-! ### Soundness -/

/-- The lines read so far and what a reader holds behind them, as the beginning
of a derivation. -/
inductive Reached (delimiters : Delimiters) : List Text → Progress → Prop
  | idle {lines : List Text} {complete : List Operation}
      (finished : Document delimiters lines complete) :
      Reached delimiters lines ⟨complete, none, none⟩
  | leaf {before part : List Text} {complete : List Operation} {current : OpenOperation}
      (finished : Document delimiters before complete)
      (begun : Begun delimiters (1 + before.length) part current) :
      Reached delimiters (before ++ part) ⟨complete, none, some current⟩
  | tasks {before inner : List Text} {opener : Text} {attributes : List Attribute}
      {complete operations : List Operation} (finished : Document delimiters before complete)
      (opens : Opens delimiters .tasks attributes opener)
      (inside : Sequence delimiters (Leaf delimiters) (1 + before.length + 1) inner operations) :
      Reached delimiters (before ++ opener :: inner)
        ⟨complete, some ⟨⟨1 + before.length, attributes⟩, operations⟩, none⟩
  | nested {before inner part : List Text} {opener : Text} {attributes : List Attribute}
      {complete operations : List Operation} {current : OpenOperation}
      (finished : Document delimiters before complete)
      (opens : Opens delimiters .tasks attributes opener)
      (inside : Sequence delimiters (Leaf delimiters) (1 + before.length + 1) inner operations)
      (begun : Begun delimiters (1 + before.length + 1 + inner.length) part current) :
      Reached delimiters (before ++ opener :: (inner ++ part))
        ⟨complete, some ⟨⟨1 + before.length, attributes⟩, operations⟩, some current⟩

private theorem Reached.step_idle {lines : List Text} {complete : List Operation} {line : Text}
    {next : Progress} (finished : Document delimiters lines complete)
    (move : Progress.Moves delimiters (1 + lines.length) line ⟨complete, none, none⟩ next) :
    Reached delimiters (lines ++ [line]) next := by
  cases move with
  | skip outside =>
      have longer := Sequence.append finished (Sequence.singleNoise outside)
      rw [List.append_nil] at longer
      exact .idle longer
  | openLeaf begins opens => exact .leaf finished (Begun.start begins opens)
  | openTasks opens => exact .tasks finished opens (Sequence.done _)

private theorem Reached.step_leaf {before part : List Text} {complete : List Operation}
    {current : OpenOperation} {line : Text} {next : Progress}
    (finished : Document delimiters before complete)
    (begun : Begun delimiters (1 + before.length) part current)
    (move : Progress.Moves delimiters (1 + (before ++ part).length) line
      ⟨complete, none, some current⟩ next) :
    Reached delimiters ((before ++ part) ++ [line]) next := by
  rw [List.append_assoc]
  cases move with
  | collect content => exact .leaf finished (begun.push content)
  | enterTo divides => exact .leaf finished (begun.enterTo divides)
  | replacePattern divides => exact .leaf finished (begun.enterReplacement divides)
  | replaceRange divides => exact .leaf finished (begun.endRange divides)
  | closeLeaf admits closes =>
      exact .idle (Sequence.append finished (Sequence.single (.leaf (begun.close admits closes))))

private theorem Reached.step_tasks {before inner : List Text} {opener : Text}
    {attributes : List Attribute} {complete operations : List Operation} {line : Text}
    {next : Progress} (finished : Document delimiters before complete)
    (opens : Opens delimiters .tasks attributes opener)
    (inside : Sequence delimiters (Leaf delimiters) (1 + before.length + 1) inner operations)
    (move : Progress.Moves delimiters (1 + (before ++ opener :: inner).length) line
      ⟨complete, some ⟨⟨1 + before.length, attributes⟩, operations⟩, none⟩ next) :
    Reached delimiters ((before ++ opener :: inner) ++ [line]) next := by
  have number : 1 + (before ++ opener :: inner).length =
      1 + before.length + 1 + inner.length := by
    rw [List.length_append, List.length_cons]
    omega
  rw [number] at move
  rw [List.append_assoc, List.cons_append]
  cases move with
  | skip outside =>
      have longer := Sequence.append inside (Sequence.singleNoise outside)
      rw [List.append_nil] at longer
      exact .tasks finished opens longer
  | openLeaf begins opensLeaf =>
      exact .nested finished opens inside (Begun.start begins opensLeaf)
  | closeTasks closes =>
      exact .idle (Sequence.append finished (Sequence.single (.tasks opens inside closes)))

private theorem Reached.step_nested {before inner part : List Text} {opener : Text}
    {attributes : List Attribute} {complete operations : List Operation}
    {current : OpenOperation} {number : Nat} {line : Text} {next : Progress}
    (finished : Document delimiters before complete)
    (opens : Opens delimiters .tasks attributes opener)
    (inside : Sequence delimiters (Leaf delimiters) (1 + before.length + 1) inner operations)
    (begun : Begun delimiters (1 + before.length + 1 + inner.length) part current)
    (move : Progress.Moves delimiters number line
      ⟨complete, some ⟨⟨1 + before.length, attributes⟩, operations⟩, some current⟩ next) :
    Reached delimiters ((before ++ opener :: (inner ++ part)) ++ [line]) next := by
  rw [List.append_assoc, List.cons_append, List.append_assoc]
  cases move with
  | collect content => exact .nested finished opens inside (begun.push content)
  | enterTo divides => exact .nested finished opens inside (begun.enterTo divides)
  | replacePattern divides =>
      exact .nested finished opens inside (begun.enterReplacement divides)
  | replaceRange divides => exact .nested finished opens inside (begun.endRange divides)
  | closeNested admits closes =>
      exact .tasks finished opens
        (Sequence.append inside (Sequence.single (begun.close admits closes)))

theorem Reached.step {lines : List Text} {line : Text} {progress next : Progress}
    (reached : Reached delimiters lines progress)
    (move : Progress.Moves delimiters (1 + lines.length) line progress next) :
    Reached delimiters (lines ++ [line]) next := by
  cases reached with
  | idle finished => exact Reached.step_idle finished move
  | leaf finished begun => exact Reached.step_leaf finished begun move
  | tasks finished opens inside => exact Reached.step_tasks finished opens inside move
  | nested finished opens inside begun =>
      exact Reached.step_nested finished opens inside begun move

theorem Reached.run {read : List Text} (lines : List Text) {progress last : Progress}
    (reached : Reached delimiters read progress)
    (taken : progress.advance delimiters (1 + read.length) lines = .ok last) :
    Reached delimiters (read ++ lines) last := by
  induction lines generalizing read progress with
  | nil =>
      cases taken
      rw [List.append_nil]
      exact reached
  | cons line rest ih =>
      obtain ⟨next, move, later⟩ := Progress.moves_of_advance_cons taken
      have after := reached.step move
      rw [show read ++ line :: rest = (read ++ [line]) ++ rest by simp]
      apply ih after
      rw [List.length_append, List.length_singleton, ← Nat.add_assoc]
      exact later

theorem document_of_parseLines {lines : List Text} {operations : List Operation}
    (parsed : parseLines delimiters lines = .ok operations) :
    Document delimiters lines operations := by
  unfold parseLines at parsed
  split at parsed
  · cases parsed
  · next last taken =>
      have reached : Reached delimiters lines last :=
        Reached.run lines (.idle (Sequence.done 1)) taken
      cases reached with
      | idle finished =>
          cases parsed
          exact finished
      | leaf finished begun => cases parsed
      | tasks finished opens inside => cases parsed
      | nested finished opens inside begun => cases parsed

/-! ### Completeness -/

def Draft.extend (lines : List Text) : Draft → Draft
  | .write content => .write (content ++ lines)
  | .run content => .run (content ++ lines)
  | .searchPattern pattern => .searchPattern (pattern ++ lines)
  | .searchTo pattern upTo => .searchTo pattern (upTo ++ lines)
  | .searchReplacement pattern upTo replacement =>
      .searchReplacement pattern upTo (replacement ++ lines)

private theorem Draft.extend_nil (draft : Draft) : draft.extend [] = draft := by
  cases draft <;> simp only [Draft.extend, List.append_nil]

private theorem Draft.extend_push (draft : Draft) (line : Text) (rest : List Text) :
    (draft.push line).extend rest = draft.extend (line :: rest) := by
  cases draft <;>
    simp only [Draft.push, Draft.extend, List.append_assoc, List.singleton_append]

private theorem Draft.phase_push (draft : Draft) (line : Text) :
    (draft.push line).phase = draft.phase := by
  cases draft <;> rfl

namespace Progress

theorem advance_content {number : Nat} {lines : List Text} {complete : List Operation}
    {tasks : Option OpenTasks} {header : Header} {draft : Draft}
    (inside : ∀ line ∈ lines, Content delimiters draft.phase line) :
    (⟨complete, tasks, some ⟨header, draft⟩⟩ : Progress).advance delimiters number lines =
      .ok ⟨complete, tasks, some ⟨header, draft.extend lines⟩⟩ := by
  induction lines generalizing number draft with
  | nil =>
      rw [Draft.extend_nil]
      rfl
  | cons line rest ih =>
      have first := inside line List.mem_cons_self
      rw [advance_cons_of_moves (.collect first), ih, Draft.extend_push]
      intro other member
      rw [Draft.phase_push]
      exact inside other (List.mem_cons_of_mem line member)

def attach (operation : Operation) (complete : List Operation) : Option OpenTasks → Progress
  | none => ⟨complete ++ [operation], none, none⟩
  | some group =>
      ⟨complete, some { group with operations := group.operations ++ [operation] }, none⟩

private theorem moves_close {number : Nat} {line : Text} {complete : List Operation}
    {tasks : Option OpenTasks} {header : Header} {draft : Draft}
    (admits : draft.phase.admits .close = true) (closes : Closes delimiters line) :
    Moves delimiters number line ⟨complete, tasks, some ⟨header, draft⟩⟩
      (attach (draft.complete header) complete tasks) := by
  cases tasks with
  | none => exact .closeLeaf admits closes
  | some group => exact .closeNested admits closes

private theorem advance_close {number : Nat} {lines : List Text} {closer : Text}
    {complete : List Operation} {tasks : Option OpenTasks} {header : Header} {draft : Draft}
    (inside : ∀ line ∈ lines, Content delimiters draft.phase line)
    (admits : (draft.extend lines).phase.admits .close = true)
    (closes : Closes delimiters closer) :
    (⟨complete, tasks, some ⟨header, draft⟩⟩ : Progress).advance delimiters number
        (lines ++ [closer]) =
      .ok (attach ((draft.extend lines).complete header) complete tasks) := by
  rw [advance_append (advance_content inside), advance_cons_of_moves (moves_close admits closes)]
  rfl

private theorem advance_divide {number : Nat} {lines rest : List Text} {divider : Text}
    {complete : List Operation} {tasks : Option OpenTasks} {header : Header}
    {draft next : Draft} (inside : ∀ line ∈ lines, Content delimiters draft.phase line)
    (move : ∀ number, Moves delimiters number divider
      ⟨complete, tasks, some ⟨header, draft.extend lines⟩⟩ ⟨complete, tasks, some ⟨header, next⟩⟩) :
    (⟨complete, tasks, some ⟨header, draft⟩⟩ : Progress).advance delimiters number
        (lines ++ divider :: rest) =
      (⟨complete, tasks, some ⟨header, next⟩⟩ : Progress).advance delimiters
        (number + lines.length + 1) rest := by
  rw [advance_append (advance_content inside), advance_cons_of_moves (move _)]

theorem advance_leaf {number : Nat} {lines : List Text} {operation : Operation}
    (leaf : Leaf delimiters number lines operation) (complete : List Operation)
    (tasks : Option OpenTasks) :
    (⟨complete, tasks, none⟩ : Progress).advance delimiters number lines =
      .ok (attach operation complete tasks) := by
  cases leaf with
  | write opens inside closes =>
      rw [advance_cons_of_moves (.openLeaf rfl opens), advance_close inside rfl closes]
      rfl
  | run opens inside closes =>
      rw [advance_cons_of_moves (.openLeaf rfl opens), advance_close inside rfl closes]
      rfl
  | search opens inside closes =>
      rw [advance_cons_of_moves (.openLeaf rfl opens), advance_close inside rfl closes]
      rfl
  | replace opens inside replaces behind closes =>
      rw [advance_cons_of_moves (.openLeaf rfl opens),
        advance_divide inside (fun _ => .replacePattern replaces), advance_close behind rfl closes]
      rfl
  | range opens inside ranges between replaces behind closes =>
      rw [advance_cons_of_moves (.openLeaf rfl opens),
        advance_divide inside (fun _ => .enterTo ranges),
        advance_divide between (fun _ => .replaceRange replaces), advance_close behind rfl closes]
      rfl

private theorem advance_sequence {Part : Nat → List Text → Operation → Prop} {number : Nat}
    {lines : List Text} {operations : List Operation} (held : List Operation → Progress)
    (idle : ∀ known, (held known).operation = none)
    (add : ∀ number lines operation known, Part number lines operation →
      (held known).advance delimiters number lines = .ok (held (known ++ [operation])))
    (whole : Sequence delimiters Part number lines operations) (known : List Operation) :
    (held known).advance delimiters number lines = .ok (held (known ++ operations)) := by
  induction whole generalizing known with
  | done number =>
      rw [List.append_nil]
      rfl
  | @noise number line rest operations outside _ ih =>
      have move : Moves delimiters number line (held known) (held known) := by
        have nothing := idle known
        cases shape : held known with
        | mk complete tasks operation =>
            rw [shape] at nothing
            cases nothing
            exact .skip outside
      rw [advance_cons_of_moves move, ih known]
  | @block number lines rest operation operations head _ ih =>
      rw [advance_append (add _ _ _ known head), ih, List.append_assoc, List.singleton_append]

theorem advance_block {number : Nat} {lines : List Text} {operation : Operation}
    (block : Block delimiters number lines operation) (complete : List Operation) :
    (⟨complete, none, none⟩ : Progress).advance delimiters number lines =
      .ok ⟨complete ++ [operation], none, none⟩ := by
  cases block with
  | leaf leaf => exact advance_leaf leaf complete none
  | @tasks opener closer attributes inner operations opens inside closes =>
      have filled := advance_sequence
        (fun known => ⟨complete, some ⟨⟨number, attributes⟩, known⟩, none⟩) (fun _ => rfl)
        (fun _ _ _ known leaf => advance_leaf leaf complete (some ⟨⟨number, attributes⟩, known⟩))
        inside []
      rw [advance_cons_of_moves (.openTasks opens), advance_append filled,
        advance_cons_of_moves (.closeTasks closes)]
      rfl

end Progress

theorem parseLines_of_document {lines : List Text} {operations : List Operation}
    (document : Document delimiters lines operations) :
    parseLines delimiters lines = .ok operations := by
  have run := Progress.advance_sequence (fun known => ⟨known, none, none⟩) (fun _ => rfl)
    (fun _ _ _ known block => Progress.advance_block block known) document []
  unfold parseLines
  rw [Progress.start, run]
  rfl

/-- A text is read as the given operations exactly when its lines are a script
of the grammar that denotes them.  Both sides hold for any delimiters, empty
ones included. -/
theorem parse_eq_ok_iff_document (delimiters : Delimiters) (text : Text)
    (operations : List Operation) :
    parse delimiters text = .ok operations ↔
      Document delimiters (linesOf text) operations :=
  ⟨document_of_parseLines, parseLines_of_document⟩

end ChangeScript

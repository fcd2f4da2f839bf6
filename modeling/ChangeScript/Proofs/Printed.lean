/-
What is read back from a printed script.

A list of operations is printable between two delimiters when everything in it
can stand on lines of a script: names and values on a marker line, and the
lines of each buffer as content.  Its printed lines are then a script of the
grammar.  The script denotes the same operations, each on its recorded line or,
where earlier lines leave no room, right behind them.
-/

import ChangeScript.Proofs.Acceptance
import ChangeScript.Proofs.Tree

set_option autoImplicit false

namespace ChangeScript

open Text Grammar

variable {delimiters : Delimiters}

structure Fits (delimiters : Delimiters) (phase : Phase) (buffer : Text) : Prop where
  noReturn : '\r' ∉ buffer
  content : buffer ≠ [] → ∀ line ∈ buffer.splitOn '\n', Content delimiters phase line

instance (phase : Phase) (buffer : Text) : Decidable (Fits delimiters phase buffer) :=
  decidable_of_iff
    ('\r' ∉ buffer ∧ (buffer ≠ [] → ∀ line ∈ buffer.splitOn '\n', Content delimiters phase line))
    ⟨fun ⟨noReturn, content⟩ => ⟨noReturn, content⟩, fun fits => ⟨fits.noReturn, fits.content⟩⟩

namespace Operation

def PrintableLeaf (delimiters : Delimiters) : Operation → Prop
  | .write header content =>
      Attribute.Printable header.attributes ∧ Fits delimiters .write content
  | .run header content =>
      Attribute.Printable header.attributes ∧ Fits delimiters .run content
  | .search header pattern upTo replacement =>
      Attribute.Printable header.attributes ∧ Fits delimiters .searchPattern pattern ∧
        (∀ last, upTo = some last → Fits delimiters .searchTo last) ∧
        Fits delimiters .searchReplacement replacement
  | .tasks _ _ => False

inductive Printable (delimiters : Delimiters) : Operation → Prop
  | leaf {operation : Operation} (leaf : operation.PrintableLeaf delimiters) :
      Printable delimiters operation
  | tasks {header : Header} {operations : List Operation}
      (attributes : Attribute.Printable header.attributes)
      (leaves : ∀ operation ∈ operations, operation.PrintableLeaf delimiters) :
      Printable delimiters (.tasks header operations)

instance : (operation : Operation) → Decidable (operation.PrintableLeaf delimiters)
  | .write header content =>
      inferInstanceAs (Decidable (Attribute.Printable header.attributes ∧
        Fits delimiters .write content))
  | .run header content =>
      inferInstanceAs (Decidable (Attribute.Printable header.attributes ∧
        Fits delimiters .run content))
  | .search header pattern upTo replacement =>
      have : Decidable (∀ last, upTo = some last → Fits delimiters .searchTo last) :=
        decidable_of_iff (∀ last ∈ upTo, Fits delimiters .searchTo last) Iff.rfl
      inferInstanceAs (Decidable (Attribute.Printable header.attributes ∧
        Fits delimiters .searchPattern pattern ∧
        (∀ last, upTo = some last → Fits delimiters .searchTo last) ∧
        Fits delimiters .searchReplacement replacement))
  | .tasks _ _ => isFalse id

instance : (operation : Operation) → Decidable (operation.Printable delimiters)
  | .tasks header operations =>
      decidable_of_iff (Attribute.Printable header.attributes ∧
        ∀ operation ∈ operations, operation.PrintableLeaf delimiters)
        ⟨fun ⟨attributes, leaves⟩ => .tasks attributes leaves, fun printable =>
          match printable with
          | .leaf leaf => leaf.elim
          | .tasks attributes leaves => ⟨attributes, leaves⟩⟩
  | .write header content =>
      decidable_of_iff ((Operation.write header content).PrintableLeaf delimiters)
        ⟨.leaf, fun | .leaf leaf => leaf⟩
  | .run header content =>
      decidable_of_iff ((Operation.run header content).PrintableLeaf delimiters)
        ⟨.leaf, fun | .leaf leaf => leaf⟩
  | .search header pattern upTo replacement =>
      decidable_of_iff
        ((Operation.search header pattern upTo replacement).PrintableLeaf delimiters)
        ⟨.leaf, fun | .leaf leaf => leaf⟩

end Operation

/-- Delimiters and operations that a printed script can hold. -/
structure Printable (delimiters : Delimiters) (operations : List Operation) : Prop where
  present : delimiters.opening ≠ []
  opening : Unbroken delimiters.opening
  closing : Unbroken delimiters.closing
  each : ∀ operation ∈ operations, operation.Printable delimiters

instance (operations : List Operation) : Decidable (Printable delimiters operations) :=
  decidable_of_iff
    (delimiters.opening ≠ [] ∧ Unbroken delimiters.opening ∧ Unbroken delimiters.closing ∧
      ∀ operation ∈ operations, operation.Printable delimiters)
    ⟨fun ⟨present, opening, closing, each⟩ => ⟨present, opening, closing, each⟩,
      fun printable => ⟨printable.present, printable.opening, printable.closing, printable.each⟩⟩

def Header.placed (used : Nat) (header : Header) : Header :=
  { header with line := max header.line (used + 1) }

namespace Operation

mutual
/-- An operation with the lines on which it and its children land when it is
printed behind `used` lines. -/
def placed (delimiters : Delimiters) (used : Nat) : Operation → Operation
  | .write header content => .write (header.placed used) content
  | .run header content => .run (header.placed used) content
  | .search header pattern upTo replacement =>
      .search (header.placed used) pattern upTo replacement
  | .tasks header operations =>
      .tasks (header.placed used)
        (placedAll delimiters (used + (openingLines delimiters used .tasks header).length)
          operations)

/-- Several operations printed in a row, the first behind `used` lines and each
other one behind all lines printed before it. -/
def placedAll (delimiters : Delimiters) (used : Nat) : List Operation → List Operation
  | [] => []
  | first :: rest =>
      first.placed delimiters used ::
        placedAll delimiters (used + (first.lines delimiters used).length) rest
end

theorem openingLines_length (used : Nat) (kind : Kind) (header : Header) :
    used + (openingLines delimiters used kind header).length = (header.placed used).line := by
  simp only [openingLines, List.length_append, List.length_replicate, List.length_singleton,
    Header.placed]
  omega

/-! ### Printed lines derive the operations -/

private theorem joinFeeds_bufferLines (buffer : Text) : joinFeeds (bufferLines buffer) = buffer := by
  unfold bufferLines
  split
  · next empty =>
      rw [empty]
      rfl
  · exact List.intercalate_splitOn '\n'

private theorem content_bufferLines {phase : Phase} {buffer : Text}
    (fits : Fits delimiters phase buffer) :
    ∀ line ∈ bufferLines buffer, Content delimiters phase line := by
  unfold bufferLines
  split
  · exact fun _ member => absurd member List.not_mem_nil
  · next filled => exact fits.content filled

theorem opens_write (kind : Kind) {attributes : List Attribute}
    (printable : Attribute.Printable attributes) :
    Opens delimiters kind attributes (Marker.write delimiters kind.name attributes) := by
  refine ⟨_, Marker.ofLine?_write delimiters (.opens kind) printable, ?_⟩
  rw [Attribute.readList_dropWhile_isBlank]
  exact Attribute.readList_writeList printable.toWellNamed

private theorem printable_nil : Attribute.Printable [] :=
  { distinct := List.nodup_nil
    present := fun _ member => absurd member List.not_mem_nil
    plain := fun _ member => absurd member List.not_mem_nil
    unbroken := fun _ member => absurd member List.not_mem_nil }

theorem marks_plain (keyword : Keyword) :
    Marks delimiters keyword [] (Marker.plain delimiters keyword) :=
  Marker.ofLine?_write delimiters keyword printable_nil

private theorem sequence_replicate {Part : Nat → List Text → Operation → Prop}
    (present : delimiters.opening ≠ []) (count : Nat) {number : Nat} {lines : List Text}
    {operations : List Operation}
    (tail : Sequence delimiters Part (number + count) lines operations) :
    Sequence delimiters Part number (List.replicate count [] ++ lines) operations := by
  induction count generalizing number with
  | zero => exact tail
  | succ count ih =>
      have outside : Noise delimiters [] := fun lead => present (List.prefix_nil.mp lead)
      rw [List.replicate_succ, List.cons_append]
      apply Sequence.noise outside
      apply ih
      rw [Nat.add_assoc, Nat.add_comm 1]
      exact tail

/-- Empty lines are noise, so a block behind them is a sequence of its own. -/
private theorem sequence_opening {Part : Nat → List Text → Operation → Prop}
    (present : delimiters.opening ≠ []) {used : Nat} {kind : Kind} {header : Header}
    {body : List Text} {operation : Operation}
    (block : Part (header.placed used).line
      (Marker.write delimiters kind.name header.attributes :: body) operation) :
    Sequence delimiters Part (used + 1) (openingLines delimiters used kind header ++ body)
      [operation] := by
  rw [openingLines, List.append_assoc, List.singleton_append]
  apply sequence_replicate present
  have landing : used + 1 + (header.line - 1 - used) = (header.placed used).line := by
    simp only [Header.placed]
    omega
  rw [landing]
  exact Sequence.single block

private theorem searchLines_none (pattern replacement : Text) :
    searchLines delimiters pattern none replacement ++ [Marker.plain delimiters .close] =
      bufferLines pattern ++ Marker.plain delimiters .replace ::
        (bufferLines replacement ++ [Marker.plain delimiters .close]) := by
  simp only [searchLines, List.append_nil, List.append_assoc, List.cons_append]

private theorem searchLines_some (pattern last replacement : Text) :
    searchLines delimiters pattern (some last) replacement ++ [Marker.plain delimiters .close] =
      bufferLines pattern ++ Marker.plain delimiters .upTo ::
        (bufferLines last ++ Marker.plain delimiters .replace ::
          (bufferLines replacement ++ [Marker.plain delimiters .close])) := by
  simp only [searchLines, List.append_assoc, List.cons_append]

theorem sequence_lines_leaf (present : delimiters.opening ≠ []) {operation : Operation}
    (printable : operation.PrintableLeaf delimiters) (used : Nat) :
    Sequence delimiters (Leaf delimiters) (used + 1) (operation.lines delimiters used)
      [operation.placed delimiters used] := by
  have closes : Closes delimiters (Marker.plain delimiters .close) := marks_plain .close
  cases operation with
  | write header content =>
      obtain ⟨attributes, fits⟩ := printable
      have leaf := @Leaf.write delimiters (header.placed used).line _ _ _ _
        (opens_write .write attributes) (content_bufferLines fits) closes
      rw [joinFeeds_bufferLines] at leaf
      rw [lines, List.append_assoc]
      exact sequence_opening present leaf
  | run header content =>
      obtain ⟨attributes, fits⟩ := printable
      have leaf := @Leaf.run delimiters (header.placed used).line _ _ _ _
        (opens_write .run attributes) (content_bufferLines fits) closes
      rw [joinFeeds_bufferLines] at leaf
      rw [lines, List.append_assoc]
      exact sequence_opening present leaf
  | search header pattern upTo replacement =>
      obtain ⟨attributes, inside, between, behind⟩ := printable
      have opens := @opens_write delimiters .search _ attributes
      have replaces : Divides delimiters .replace (Marker.plain delimiters .replace) :=
        ⟨[], marks_plain .replace⟩
      cases upTo with
      | none =>
          have leaf := @Leaf.replace delimiters (header.placed used).line _ _ _ _ _ _ opens
            (content_bufferLines inside) replaces (content_bufferLines behind) closes
          rw [joinFeeds_bufferLines, joinFeeds_bufferLines] at leaf
          rw [lines, List.append_assoc, searchLines_none]
          exact sequence_opening present leaf
      | some last =>
          have ranges : Divides delimiters .upTo (Marker.plain delimiters .upTo) :=
            ⟨[], marks_plain .upTo⟩
          have leaf := @Leaf.range delimiters (header.placed used).line _ _ _ _ _ _ _ _ opens
            (content_bufferLines inside) ranges (content_bufferLines (between last rfl)) replaces
            (content_bufferLines behind) closes
          rw [joinFeeds_bufferLines, joinFeeds_bufferLines, joinFeeds_bufferLines] at leaf
          rw [lines, List.append_assoc, searchLines_some]
          exact sequence_opening present leaf
  | tasks header operations => exact printable.elim

private theorem sequence_linesAll {Part : Nat → List Text → Operation → Prop}
    {operations : List Operation}
    (each : ∀ operation ∈ operations, ∀ used,
      Sequence delimiters Part (used + 1) (operation.lines delimiters used)
        [operation.placed delimiters used]) (used : Nat) :
    Sequence delimiters Part (used + 1) (linesAll delimiters used operations)
      (placedAll delimiters used operations) := by
  induction operations generalizing used with
  | nil => exact Sequence.done (used + 1)
  | cons first rest ih =>
      have head := each first List.mem_cons_self used
      have tail := ih (fun operation member => each operation (List.mem_cons_of_mem first member))
        (used + (first.lines delimiters used).length)
      rw [linesAll, placedAll]
      apply Sequence.append head
      rw [Nat.add_right_comm]
      exact tail

theorem sequence_lines (present : delimiters.opening ≠ []) {operation : Operation}
    (printable : operation.Printable delimiters) (used : Nat) :
    Sequence delimiters (Block delimiters) (used + 1) (operation.lines delimiters used)
      [operation.placed delimiters used] := by
  cases printable with
  | leaf leaf => exact (sequence_lines_leaf present leaf used).weaken .leaf
  | @tasks header operations attributes leaves =>
      have inside := sequence_linesAll
        (fun operation member => sequence_lines_leaf present (leaves operation member))
        (used + (openingLines delimiters used .tasks header).length)
      rw [openingLines_length] at inside
      rw [lines, placed, List.append_assoc, openingLines_length]
      exact sequence_opening present
        (.tasks (opens_write .tasks attributes) inside (marks_plain .close))

/-! ### Printed lines are unbroken -/

private theorem unbroken_bufferLines {phase : Phase} {buffer : Text}
    (fits : Fits delimiters phase buffer) : ∀ line ∈ bufferLines buffer, Unbroken line := by
  unfold bufferLines
  split
  · exact fun _ member => absurd member List.not_mem_nil
  · exact unbroken_of_mem_splitOn fits.noReturn

section Unbroken

variable (opening : Unbroken delimiters.opening) (closing : Unbroken delimiters.closing)

include opening closing

private theorem unbroken_openingLines {used : Nat} {kind : Kind} {header : Header}
    (printable : Attribute.Printable header.attributes) :
    ∀ line ∈ openingLines delimiters used kind header, Unbroken line := by
  intro line member
  rcases List.mem_append.mp member with padding | marker
  · rw [List.eq_of_mem_replicate padding]
    exact Unbroken.nil
  · rw [List.mem_singleton.mp marker]
    exact Marker.unbroken_write opening closing (.opens kind) printable

private theorem unbroken_plain (keyword : Keyword) :
    Unbroken (Marker.plain delimiters keyword) :=
  Marker.unbroken_write opening closing keyword printable_nil

private theorem unbroken_searchLines {pattern replacement : Text} {upTo : Option Text}
    (inside : Fits delimiters .searchPattern pattern)
    (between : ∀ last, upTo = some last → Fits delimiters .searchTo last)
    (behind : Fits delimiters .searchReplacement replacement) :
    ∀ line ∈ searchLines delimiters pattern upTo replacement, Unbroken line := by
  intro line member
  rcases List.mem_append.mp member with before | after
  · rcases List.mem_append.mp before with first | middle
    · exact unbroken_bufferLines inside line first
    · cases upTo with
      | none => cases middle
      | some last =>
          rcases List.mem_cons.mp middle with same | later
          · rw [same]
            exact unbroken_plain opening closing .upTo
          · exact unbroken_bufferLines (between last rfl) line later
  · rcases List.mem_cons.mp after with same | later
    · rw [same]
      exact unbroken_plain opening closing .replace
    · exact unbroken_bufferLines behind line later

private theorem unbroken_enclosed {used : Nat} {kind : Kind} {header : Header}
    {inner : List Text} (printable : Attribute.Printable header.attributes)
    (unbroken : ∀ line ∈ inner, Unbroken line) :
    ∀ line ∈ openingLines delimiters used kind header ++ inner ++
      [Marker.plain delimiters .close], Unbroken line := by
  intro line member
  rcases List.mem_append.mp member with before | last
  · rcases List.mem_append.mp before with first | middle
    · exact unbroken_openingLines opening closing printable line first
    · exact unbroken line middle
  · rw [List.mem_singleton.mp last]
    exact unbroken_plain opening closing .close

private theorem unbroken_lines_leaf {operation : Operation}
    (printable : operation.PrintableLeaf delimiters) (used : Nat) :
    ∀ line ∈ operation.lines delimiters used, Unbroken line := by
  cases operation with
  | write header content =>
      obtain ⟨attributes, fits⟩ := printable
      exact unbroken_enclosed opening closing attributes (unbroken_bufferLines fits)
  | run header content =>
      obtain ⟨attributes, fits⟩ := printable
      exact unbroken_enclosed opening closing attributes (unbroken_bufferLines fits)
  | search header pattern upTo replacement =>
      obtain ⟨attributes, inside, between, behind⟩ := printable
      exact unbroken_enclosed opening closing attributes
        (unbroken_searchLines opening closing inside between behind)
  | tasks header operations => exact printable.elim

omit opening closing in
private theorem unbroken_linesAll {operations : List Operation}
    (each : ∀ operation ∈ operations, ∀ used,
      ∀ line ∈ operation.lines delimiters used, Unbroken line) (used : Nat) :
    ∀ line ∈ linesAll delimiters used operations, Unbroken line := by
  induction operations generalizing used with
  | nil => exact fun _ member => absurd member List.not_mem_nil
  | cons first rest ih =>
      intro line member
      rcases List.mem_append.mp member with head | tail
      · exact each first List.mem_cons_self used line head
      · exact ih (fun operation inside => each operation (List.mem_cons_of_mem first inside)) _
          line tail

private theorem unbroken_lines {operation : Operation}
    (printable : operation.Printable delimiters) (used : Nat) :
    ∀ line ∈ operation.lines delimiters used, Unbroken line := by
  cases printable with
  | leaf leaf => exact unbroken_lines_leaf opening closing leaf used
  | tasks attributes leaves =>
      apply unbroken_enclosed opening closing attributes
      apply unbroken_linesAll
      exact fun operation member => unbroken_lines_leaf opening closing (leaves operation member)

theorem unbroken_linesAll_of_printable {operations : List Operation}
    (each : ∀ operation ∈ operations, operation.Printable delimiters) (used : Nat) :
    ∀ line ∈ linesAll delimiters used operations, Unbroken line :=
  unbroken_linesAll
    (fun operation member => unbroken_lines opening closing (each operation member)) used

end Unbroken

theorem return_not_mem_print {operations : List Operation}
    (unbroken : operations ≠ [] → Unbroken delimiters.opening ∧ Unbroken delimiters.closing)
    (each : ∀ operation ∈ operations, operation.Printable delimiters) :
    '\r' ∉ print delimiters operations := by
  apply return_not_mem_joinFeeds
  cases operations with
  | nil => exact fun _ member => absurd member List.not_mem_nil
  | cons first rest =>
      obtain ⟨opening, closing⟩ := unbroken (List.cons_ne_nil first rest)
      exact unbroken_linesAll_of_printable opening closing each 0

private theorem lines_ne_nil (operation : Operation) (used : Nat) :
    operation.lines delimiters used ≠ [] := by
  cases operation <;> simp [lines]

/-- The lines of a printed script derive the operations where they land.
Without operations there are no delimiters to print. -/
theorem document_print {operations : List Operation} (present : delimiters.opening ≠ [])
    (unbroken : operations ≠ [] → Unbroken delimiters.opening ∧ Unbroken delimiters.closing)
    (each : ∀ operation ∈ operations, operation.Printable delimiters) :
    Document delimiters (linesOf (print delimiters operations))
      (placedAll delimiters 0 operations) := by
  cases operations with
  | nil =>
      exact Sequence.singleNoise fun lead => present (List.prefix_nil.mp lead)
  | cons first rest =>
      obtain ⟨opening, closing⟩ := unbroken (List.cons_ne_nil first rest)
      have filled : linesAll delimiters 0 (first :: rest) ≠ [] :=
        List.append_ne_nil_of_left_ne_nil (lines_ne_nil first 0) _
      rw [print, linesOf_joinFeeds filled]
      · exact sequence_linesAll
          (fun operation member => sequence_lines present (each operation member)) 0
      · exact unbroken_linesAll_of_printable opening closing each 0

end Operation

/-- Printing a printable list and reading it back changes nothing but the lines,
and each operation is found where it landed. -/
theorem parse_print_eq_placed {operations : List Operation}
    (printable : Printable delimiters operations) :
    parse delimiters (print delimiters operations) =
      .ok (Operation.placedAll delimiters 0 operations) :=
  parseLines_of_document
    (Operation.document_print printable.present
      (fun _ => ⟨printable.opening, printable.closing⟩) printable.each)

/-- A blank and a letter as delimiters, a value that holds the closing one, and
recorded lines that descend. -/
theorem parse_print_descending :
    Printable ⟨[' '], ['D']⟩
        [.write ⟨0, [⟨"a".toList, "D\"\\".toList⟩]⟩ "x\n\ny".toList,
          .tasks ⟨7, []⟩ [.run ⟨2, []⟩ [], .search ⟨1, []⟩ [] (some []) "z".toList]] ∧
      parse ⟨[' '], ['D']⟩ (print ⟨[' '], ['D']⟩
        [.write ⟨0, [⟨"a".toList, "D\"\\".toList⟩]⟩ "x\n\ny".toList,
          .tasks ⟨7, []⟩ [.run ⟨2, []⟩ [], .search ⟨1, []⟩ [] (some []) "z".toList]]) =
        .ok [.write ⟨1, [⟨"a".toList, "D\"\\".toList⟩]⟩ "x\n\ny".toList,
          .tasks ⟨7, []⟩ [.run ⟨8, []⟩ [], .search ⟨10, []⟩ [] (some []) "z".toList]] := by
  have printable : Printable ⟨[' '], ['D']⟩
      [.write ⟨0, [⟨"a".toList, "D\"\\".toList⟩]⟩ "x\n\ny".toList,
        .tasks ⟨7, []⟩ [.run ⟨2, []⟩ [], .search ⟨1, []⟩ [] (some []) "z".toList]] := by
    decide +kernel
  refine ⟨printable, (parse_print_eq_placed printable).trans ?_⟩
  decide +kernel

end ChangeScript

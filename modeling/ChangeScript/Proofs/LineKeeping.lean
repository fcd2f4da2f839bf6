/-
When formatting keeps every operation on its line.

A printed operation never takes up more lines than it had in the script, with
one exception: a search that was closed without a replacing marker is printed
with one.  So formatting keeps all lines exactly when every search without a
range and a replacement leaves room for that marker before the operation that
follows it.
-/

import Mathlib.Data.List.Chain
import ChangeScript.Proofs.RoundTrip

set_option autoImplicit false

namespace ChangeScript

open Text Grammar

variable {delimiters : Delimiters}

namespace Operation

def innerLines (delimiters : Delimiters) : Operation → List Text
  | .write _ content => bufferLines content
  | .run _ content => bufferLines content
  | .search _ pattern upTo replacement => searchLines delimiters pattern upTo replacement
  | .tasks header operations => linesAll delimiters header.line operations

/-- The last line of an operation that is printed on its recorded line. -/
def lastLine (delimiters : Delimiters) (operation : Operation) : Nat :=
  operation.line + (operation.innerLines delimiters).length + 1

def isBareSearch : Operation → Bool
  | .search _ _ none [] => true
  | _ => false

/-- Whether a bare search is the last operation in a tree. -/
def endsBare (operation : Operation) : Bool := operation.preorder.getLast?.any isBareSearch

/-- An operation that ends in a bare search is printed in front of the next one. -/
def LeavesRoom (delimiters : Delimiters) (left right : Operation) : Prop :=
  left.endsBare = true → left.lastLine delimiters < right.line

/-- Every bare search leaves room, at the top and inside every tasks block. -/
structure SearchesFit (delimiters : Delimiters) (operations : List Operation) : Prop where
  top : operations.IsChain (LeavesRoom delimiters)
  inside : ∀ operation ∈ operations, operation.children.IsChain (LeavesRoom delimiters)

instance (left right : Operation) : Decidable (LeavesRoom delimiters left right) :=
  inferInstanceAs (Decidable (_ → _))

instance (operations : List Operation) : Decidable (SearchesFit delimiters operations) :=
  decidable_of_iff
    (operations.IsChain (LeavesRoom delimiters) ∧
      ∀ operation ∈ operations, operation.children.IsChain (LeavesRoom delimiters))
    ⟨fun ⟨top, inside⟩ => ⟨top, inside⟩, fun fit => ⟨fit.top, fit.inside⟩⟩

/-- Every operation lands on its recorded line when the first is printed behind
`used` lines. -/
def Stay (delimiters : Delimiters) (used : Nat) (operations : List Operation) : Prop :=
  (preorderAll (placedAll delimiters used operations)).map line =
    (preorderAll operations).map line

theorem line_placed (operation : Operation) (used : Nat) :
    (operation.placed delimiters used).line = max operation.line (used + 1) := by
  cases operation <;> rfl

theorem children_placed (operation : Operation) (used : Nat) :
    (operation.placed delimiters used).children =
      placedAll delimiters (max operation.line (used + 1)) operation.children := by
  cases operation with
  | write header content => rfl
  | run header content => rfl
  | search header pattern upTo replacement => rfl
  | tasks header operations =>
      rw [placed, openingLines_length]
      rfl

mutual
private theorem length_preorder_placed (used : Nat) :
    (operation : Operation) →
    (operation.placed delimiters used).preorder.length = operation.preorder.length
  | .write header content => rfl
  | .run header content => rfl
  | .search header pattern upTo replacement => rfl
  | .tasks header operations => by
      rw [placed, preorder, preorder, List.length_cons, List.length_cons,
        length_preorderAll_placedAll _ operations]

private theorem length_preorderAll_placedAll (used : Nat) :
    (operations : List Operation) →
    (preorderAll (placedAll delimiters used operations)).length = (preorderAll operations).length
  | [] => rfl
  | first :: rest => by
      rw [placedAll, preorderAll, preorderAll, List.length_append, List.length_append,
        length_preorder_placed used first, length_preorderAll_placedAll _ rest]
end

private theorem map_line_preorder (operation : Operation) :
    operation.preorder.map line =
      operation.line :: (preorderAll operation.children).map line := by
  rw [preorder_eq_cons, List.map_cons]

theorem length_lines_of_lt {operation : Operation} {used : Nat} (room : used < operation.line) :
    used + (operation.lines delimiters used).length = operation.lastLine delimiters := by
  have opening : used + (openingLines delimiters used operation.kind operation.header).length =
      operation.line := by
    rw [openingLines_length]
    exact Nat.max_eq_left room
  have shape : operation.lines delimiters used =
      openingLines delimiters used operation.kind operation.header ++
        operation.innerLines delimiters ++ [Marker.plain delimiters .close] := by
    cases operation with
    | write header content => rfl
    | run header content => rfl
    | search header pattern upTo replacement => rfl
    | tasks header operations =>
        change used + (openingLines delimiters used .tasks header).length = header.line at opening
        rw [lines, opening]
        rfl
  rw [shape, List.length_append, List.length_append, List.length_singleton, lastLine]
  omega

theorem stay_nil (used : Nat) : Stay delimiters used [] := rfl

theorem stay_cons_iff {used : Nat} {first : Operation} {rest : List Operation} :
    Stay delimiters used (first :: rest) ↔
      used < first.line ∧ Stay delimiters first.line first.children ∧
        Stay delimiters (first.lastLine delimiters) rest := by
  unfold Stay
  rw [placedAll, preorderAll, preorderAll, List.map_append, List.map_append]
  constructor
  · intro same
    obtain ⟨head, tail⟩ := List.append_inj same (by
      rw [List.length_map, List.length_map, length_preorder_placed])
    rw [map_line_preorder, map_line_preorder, line_placed, children_placed] at head
    obtain ⟨lineSame, inside⟩ := List.cons.inj head
    have room : used < first.line := by omega
    rw [lineSame] at inside
    rw [length_lines_of_lt room] at tail
    exact ⟨room, inside, tail⟩
  · rintro ⟨room, inside, tail⟩
    have lineSame : max first.line (used + 1) = first.line := Nat.max_eq_left room
    rw [map_line_preorder, map_line_preorder, line_placed, children_placed, lineSame, inside,
      length_lines_of_lt room, tail]

theorem stay_head {used : Nat} {operations : List Operation}
    (stay : Stay delimiters used operations) :
    ∀ first ∈ operations.head?, used < first.line := by
  cases operations with
  | nil => exact fun _ member => by cases member
  | cons first rest =>
      intro other member
      cases member
      exact (stay_cons_iff.mp stay).1

theorem isChain_of_stay {used : Nat} {operations : List Operation}
    (stay : Stay delimiters used operations) :
    operations.IsChain (LeavesRoom delimiters) := by
  induction operations generalizing used with
  | nil => exact List.isChain_nil
  | cons first rest ih =>
      obtain ⟨_room, _inside, later⟩ := stay_cons_iff.mp stay
      rw [List.isChain_cons]
      exact ⟨fun next member _bare => stay_head later next member, ih later⟩

theorem stay_children_of_stay {used : Nat} {operations : List Operation}
    (stay : Stay delimiters used operations) :
    ∀ operation ∈ operations, Stay delimiters operation.line operation.children := by
  induction operations generalizing used with
  | nil => exact fun _ member => absurd member List.not_mem_nil
  | cons first rest ih =>
      obtain ⟨_room, inside, later⟩ := stay_cons_iff.mp stay
      exact List.forall_mem_cons.mpr ⟨inside, ih later⟩

/-! ### Scripts leave room for all but bare searches -/

private theorem length_bufferLines_joinFeeds {lines : List Text}
    (unbroken : ∀ line ∈ lines, Unbroken line) :
    (bufferLines (joinFeeds lines)).length ≤ lines.length := by
  unfold bufferLines
  split
  · exact Nat.zero_le _
  · next filled => rw [splitOn_joinFeeds (ne_nil_of_joinFeeds_ne_nil filled) unbroken]

theorem lastLine_lt_of_leaf {number : Nat} {lines : List Text} {operation : Operation}
    (leaf : Leaf delimiters number lines operation) (unbroken : ∀ line ∈ lines, Unbroken line)
    (rich : operation.isBareSearch = false) :
    operation.lastLine delimiters < number + lines.length := by
  cases leaf with
  | write opens inside closes =>
      simp only [List.forall_mem_cons, List.forall_mem_append] at unbroken
      have shorter := length_bufferLines_joinFeeds unbroken.2.1
      simp only [lastLine, line, header, innerLines, List.length_cons, List.length_append,
        List.length_nil]
      omega
  | run opens inside closes =>
      simp only [List.forall_mem_cons, List.forall_mem_append] at unbroken
      have shorter := length_bufferLines_joinFeeds unbroken.2.1
      simp only [lastLine, line, header, innerLines, List.length_cons, List.length_append,
        List.length_nil]
      omega
  | search opens inside closes => cases rich
  | replace opens inside replaces behind closes =>
      simp only [List.forall_mem_cons, List.forall_mem_append] at unbroken
      obtain ⟨_opener, first, _replacer, second, _closer⟩ := unbroken
      have shorter := length_bufferLines_joinFeeds first
      have shorter' := length_bufferLines_joinFeeds second
      simp only [lastLine, line, header, innerLines, searchLines, List.length_cons,
        List.length_append, List.length_nil]
      omega
  | range opens inside ranges between replaces behind closes =>
      simp only [List.forall_mem_cons, List.forall_mem_append] at unbroken
      obtain ⟨_opener, first, _extender, middle, _replacer, second, _closer⟩ := unbroken
      have shorter := length_bufferLines_joinFeeds first
      have shorter' := length_bufferLines_joinFeeds middle
      have shorter'' := length_bufferLines_joinFeeds second
      simp only [lastLine, line, header, innerLines, searchLines, List.length_cons,
        List.length_append, List.length_nil]
      omega

private theorem children_of_leaf {number : Nat} {lines : List Text} {operation : Operation}
    (leaf : Leaf delimiters number lines operation) : operation.children = [] :=
  children_of_kind_ne_tasks leaf.kind_ne_tasks

private theorem endsBare_of_leaf {number : Nat} {lines : List Text} {operation : Operation}
    (leaf : Leaf delimiters number lines operation) :
    operation.endsBare = operation.isBareSearch := by
  rw [endsBare, preorder_eq_cons, children_of_leaf leaf]
  rfl

private theorem rich_behind {first : Operation} {operations : List Operation}
    (rich : (first :: preorderAll operations).getLast?.any isBareSearch = false) :
    (preorderAll operations).getLast?.any isBareSearch = false := by
  cases operations with
  | nil => rfl
  | cons next others =>
      rw [preorderAll, preorder_eq_cons] at rich ⊢
      exact rich

/-- Leaf blocks that stay in place end no later than their lines did, if the
last of them is no bare search. -/
private theorem length_linesAll_lt {number : Nat} {lines : List Text}
    {operations : List Operation}
    (leaves : Sequence delimiters (fun number lines operation =>
      Leaf delimiters number lines operation ∧ ∀ line ∈ lines, Unbroken line)
      number lines operations)
    {used : Nat} (stay : Stay delimiters used operations)
    (ahead : operations = [] → used < number)
    (rich : (preorderAll operations).getLast?.any isBareSearch = false) :
    used + (linesAll delimiters used operations).length < number + lines.length := by
  induction leaves generalizing used with
  | done number => exact ahead rfl
  | @noise number line rest operations outside _ ih =>
      have later := ih stay (fun empty => Nat.lt_succ_of_lt (ahead empty)) rich
      rw [List.length_cons]
      omega
  | @block number lines rest operation operations head _ ih =>
      obtain ⟨leaf, unbroken⟩ := head
      obtain ⟨room, _inside, tail⟩ := stay_cons_iff.mp stay
      have shape := @length_lines_of_lt delimiters _ _ room
      have single : operation.preorder = [operation] := by
        rw [preorder_eq_cons, children_of_leaf leaf]
        rfl
      rw [preorderAll, single] at rich
      rw [linesAll, List.length_append, List.length_append, ← Nat.add_assoc, ← Nat.add_assoc,
        shape]
      apply ih tail
      · intro empty
        rw [empty] at rich
        exact lastLine_lt_of_leaf leaf unbroken rich
      · exact rich_behind rich

private theorem lastLine_lt_of_block {number : Nat} {lines : List Text} {operation : Operation}
    (block : Block delimiters number lines operation)
    (unbroken : ∀ line ∈ lines, Unbroken line)
    (stay : Stay delimiters operation.line operation.children)
    (rich : operation.endsBare = false) :
    operation.lastLine delimiters < number + lines.length := by
  cases block with
  | leaf leaf =>
      rw [endsBare_of_leaf leaf] at rich
      exact lastLine_lt_of_leaf leaf unbroken rich
  | @tasks opener closer attributes inner operations opens inside closes =>
      simp only [List.forall_mem_cons, List.forall_mem_append] at unbroken
      have shorter := length_linesAll_lt (inside.restrict unbroken.2.1) stay
        (fun _ => Nat.lt_succ_self number) (rich_behind rich)
      simp only [lastLine, line, header, innerLines, List.length_cons, List.length_append,
        List.length_nil] at shorter ⊢
      omega

private theorem le_line_head {Part : Nat → List Text → Operation → Prop} {number : Nat}
    {lines : List Text} {operations : List Operation}
    (whole : Sequence delimiters Part number lines operations)
    (starts : ∀ number lines operation, Part number lines operation → operation.line = number) :
    ∀ first ∈ operations.head?, number ≤ first.line := by
  induction whole with
  | done number => exact fun _ member => by cases member
  | noise outside _ ih => exact fun first member => Nat.le_of_succ_le (ih first member)
  | @block number lines rest operation operations head _ _ =>
      intro first member
      cases member
      exact Nat.le_of_eq (starts number lines operation head).symm

/-- Blocks stay in place if each leaves room for the next, which only those that
end in a bare search can fail to do. -/
private theorem stay_of_sequence {Part : Nat → List Text → Operation → Prop} {number : Nat}
    {lines : List Text} {operations : List Operation}
    (whole : Sequence delimiters Part number lines operations)
    (starts : ∀ number lines operation, Part number lines operation → operation.line = number)
    (short : ∀ number lines operation, Part number lines operation →
      Stay delimiters operation.line operation.children → operation.endsBare = false →
      operation.lastLine delimiters < number + lines.length)
    (fit : operations.IsChain (LeavesRoom delimiters))
    (inside : ∀ operation ∈ operations, Stay delimiters operation.line operation.children)
    {used : Nat} (ahead : ∀ first ∈ operations.head?, used < first.line) :
    Stay delimiters used operations := by
  -- `used` becomes the last printed line of each block, which its lines in the script bound
  -- unless it ends in a bare search.
  induction whole generalizing used with
  | done number => exact stay_nil used
  | noise outside _ ih => exact ih fit inside ahead
  | @block number lines rest operation operations head tail ih =>
      obtain ⟨next, later⟩ := List.isChain_cons.mp fit
      obtain ⟨within, others⟩ := List.forall_mem_cons.mp inside
      refine stay_cons_iff.mpr ⟨ahead operation rfl, within, ih later others ?_⟩
      intro follower member
      cases bare : operation.endsBare with
      | true => exact next follower member bare
      | false =>
          have ends := short number lines operation head within bare
          have begins := le_line_head tail starts follower member
          omega

end Operation

private theorem stay_children_of_block {number : Nat} {lines : List Text} {operation : Operation}
    (block : Block delimiters number lines operation)
    (unbroken : ∀ line ∈ lines, Unbroken line)
    (fit : operation.children.IsChain (Operation.LeavesRoom delimiters)) :
    Operation.Stay delimiters operation.line operation.children := by
  cases block with
  | leaf leaf =>
      rw [Operation.children_of_leaf leaf]
      exact Operation.stay_nil _
  | @tasks opener closer attributes inner operations opens inside closes =>
      simp only [List.forall_mem_cons, List.forall_mem_append] at unbroken
      have leaves := inside.restrict unbroken.2.1
      apply Operation.stay_of_sequence leaves (fun _ _ _ part => part.1.opened.line_eq) ?_ fit
      · intro operation member
        have empty := leaves.forall_of_block
          (fun _ _ _ part => Operation.children_of_leaf part.1) operation member
        rw [empty]
        exact Operation.stay_nil _
      · intro first member
        exact Operation.le_line_head leaves (fun _ _ _ part => part.1.opened.line_eq) first member
      · intro number lines operation part _inside rich
        rw [Operation.endsBare_of_leaf part.1] at rich
        exact Operation.lastLine_lt_of_leaf part.1 part.2 rich

theorem stay_iff_searchesFit {lines : List Text} {operations : List Operation}
    (document : Document delimiters lines operations)
    (unbroken : ∀ line ∈ lines, Unbroken line) :
    Operation.Stay delimiters 0 operations ↔ Operation.SearchesFit delimiters operations := by
  have blocks := Sequence.restrict document unbroken
  have starts : ∀ number lines operation,
      (Block delimiters number lines operation ∧ ∀ line ∈ lines, Unbroken line) →
        operation.line = number :=
    fun _ _ _ part => part.1.opened.line_eq
  constructor
  · intro stay
    exact
      { top := Operation.isChain_of_stay stay
        inside := fun operation member =>
          Operation.isChain_of_stay (Operation.stay_children_of_stay stay operation member) }
  · intro fit
    apply Operation.stay_of_sequence blocks starts ?_ fit.top
    · intro operation member
      have each := blocks.forall_of_block
        (fun _ _ _ part => stay_children_of_block part.1 part.2) operation member
      exact each (fit.inside operation member)
    · exact Operation.le_line_head blocks starts
    · intro number lines operation part stay rich
      exact Operation.lastLine_lt_of_block part.1 part.2 stay rich

/-- Formatting a script keeps every operation, in document order, on its line
exactly when every bare search leaves room for its replacing marker. -/
theorem format_keeps_lines_iff {text : Text} {operations : List Operation}
    (present : delimiters.opening ≠ []) (parsed : parse delimiters text = .ok operations) :
    ∃ again, parse delimiters (print delimiters operations) = .ok again ∧
      ((Operation.preorderAll again).map Operation.line =
          (Operation.preorderAll operations).map Operation.line ↔
        Operation.SearchesFit delimiters operations) :=
  ⟨Operation.placedAll delimiters 0 operations, parse_print_of_parse present parsed,
    stay_iff_searchesFit (document_of_parseLines parsed) (unbroken_of_mem_linesOf text)⟩

/-- A line between a bare search and the next operation is room enough. -/
theorem format_keeps_lines_with_room :
    parse .standard
        "<---SEARCH--->\nx\n<---END--->\n\n<---RUN--->\nls\n<---END--->".toList =
      .ok [.search ⟨1, []⟩ "x".toList none [], .run ⟨5, []⟩ "ls".toList] ∧
    ∃ again,
      parse .standard (print .standard
        [.search ⟨1, []⟩ "x".toList none [], .run ⟨5, []⟩ "ls".toList]) = .ok again ∧
      (Operation.preorderAll again).map Operation.line = [1, 5] := by
  have parsed : parse .standard
      "<---SEARCH--->\nx\n<---END--->\n\n<---RUN--->\nls\n<---END--->".toList =
        .ok [.search ⟨1, []⟩ "x".toList none [], .run ⟨5, []⟩ "ls".toList] := by
    decide +kernel
  obtain ⟨again, reparsed, kept⟩ := format_keeps_lines_iff (by decide) parsed
  exact ⟨parsed, again, reparsed, kept.mpr (by decide +kernel)⟩

/-- Without such a line formatting moves the next operation, so it does not keep
the lines of every script. -/
theorem format_moves_run_behind_bare_search :
    ¬∀ (delimiters : Delimiters) (text : Text) (operations again : List Operation),
      delimiters.opening ≠ [] → parse delimiters text = .ok operations →
      parse delimiters (print delimiters operations) = .ok again →
      (Operation.preorderAll again).map Operation.line =
        (Operation.preorderAll operations).map Operation.line := by
  intro keeps
  have parsed : parse .standard
      "<---SEARCH--->\nx\n<---END--->\n<---RUN--->\nls\n<---END--->".toList =
        .ok [.search ⟨1, []⟩ "x".toList none [], .run ⟨4, []⟩ "ls".toList] := by
    decide +kernel
  have reparsed : parse .standard (print .standard
      [.search ⟨1, []⟩ "x".toList none [], .run ⟨4, []⟩ "ls".toList]) =
        .ok [.search ⟨1, []⟩ "x".toList none [], .run ⟨5, []⟩ "ls".toList] := by
    decide +kernel
  have same := keeps _ _ _ _ (by decide) parsed reparsed
  exact absurd same (by decide +kernel)

end ChangeScript

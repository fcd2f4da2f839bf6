/-
Formatting keeps the meaning of a script.

Whatever a script denotes is printable between the delimiters it was read with,
so printing it and reading it back gives the same operations.  Only their lines
can differ.
-/

import ChangeScript.Proofs.Printed

set_option autoImplicit false

namespace ChangeScript

open Text Grammar

variable {delimiters : Delimiters}

private theorem fits_joinFeeds {phase : Phase} {lines : List Text}
    (unbroken : ∀ line ∈ lines, Unbroken line)
    (content : ∀ line ∈ lines, Content delimiters phase line) :
    Fits delimiters phase (joinFeeds lines) := by
  refine ⟨return_not_mem_joinFeeds unbroken, ?_⟩
  intro filled
  rw [splitOn_joinFeeds (ne_nil_of_joinFeeds_ne_nil filled) unbroken]
  exact content

private theorem fits_nil {phase : Phase} : Fits delimiters phase [] :=
  ⟨List.not_mem_nil, fun filled => absurd rfl filled⟩

private theorem printable_of_opens {kind : Kind} {attributes : List Attribute} {line : Text}
    (opens : Opens delimiters kind attributes line) (unbroken : Unbroken line) :
    Attribute.Printable attributes := by
  obtain ⟨arguments, marks, read⟩ := opens
  have inside := (Marker.unbroken_of_ofLine? marks unbroken).2.2
  exact
    { toWellNamed := Attribute.wellNamed_of_readList read
      unbroken := fun entry member =>
        inside.of_subset (Attribute.value_subset_of_readList read entry member) }

private theorem unbroken_of_opens {kind : Kind} {attributes : List Attribute} {line : Text}
    (opens : Opens delimiters kind attributes line) (unbroken : Unbroken line) :
    Unbroken delimiters.opening ∧ Unbroken delimiters.closing := by
  obtain ⟨arguments, marks, _read⟩ := opens
  obtain ⟨opening, closing, _inside⟩ := Marker.unbroken_of_ofLine? marks unbroken
  exact ⟨opening, closing⟩

theorem printableLeaf_of_leaf {number : Nat} {lines : List Text} {operation : Operation}
    (leaf : Leaf delimiters number lines operation)
    (unbroken : ∀ line ∈ lines, Unbroken line) : operation.PrintableLeaf delimiters := by
  cases leaf with
  | write opens inside closes =>
      simp only [List.forall_mem_cons, List.forall_mem_append] at unbroken
      exact ⟨printable_of_opens opens unbroken.1, fits_joinFeeds unbroken.2.1 inside⟩
  | run opens inside closes =>
      simp only [List.forall_mem_cons, List.forall_mem_append] at unbroken
      exact ⟨printable_of_opens opens unbroken.1, fits_joinFeeds unbroken.2.1 inside⟩
  | search opens inside closes =>
      simp only [List.forall_mem_cons, List.forall_mem_append] at unbroken
      exact ⟨printable_of_opens opens unbroken.1, fits_joinFeeds unbroken.2.1 inside,
        fun _ absent => (by cases absent), fits_nil⟩
  | replace opens inside replaces behind closes =>
      simp only [List.forall_mem_cons, List.forall_mem_append] at unbroken
      obtain ⟨opener, first, _replacer, second, _closer⟩ := unbroken
      exact ⟨printable_of_opens opens opener, fits_joinFeeds first inside,
        fun _ absent => (by cases absent), fits_joinFeeds second behind⟩
  | range opens inside ranges between replaces behind closes =>
      simp only [List.forall_mem_cons, List.forall_mem_append] at unbroken
      obtain ⟨opener, first, _extender, middle, _replacer, second, _closer⟩ := unbroken
      refine ⟨printable_of_opens opens opener, fits_joinFeeds first inside, ?_,
        fits_joinFeeds second behind⟩
      intro last same
      cases same
      exact fits_joinFeeds middle between

theorem printable_of_block {number : Nat} {lines : List Text} {operation : Operation}
    (block : Block delimiters number lines operation)
    (unbroken : ∀ line ∈ lines, Unbroken line) : operation.Printable delimiters := by
  cases block with
  | leaf leaf => exact .leaf (printableLeaf_of_leaf leaf unbroken)
  | tasks opens inside closes =>
      simp only [List.forall_mem_cons, List.forall_mem_append] at unbroken
      exact .tasks (printable_of_opens opens unbroken.1)
        ((inside.restrict unbroken.2.1).forall_of_block
          fun _ _ _ part => printableLeaf_of_leaf part.1 part.2)

private theorem unbroken_of_block {number : Nat} {lines : List Text} {operation : Operation}
    (block : Block delimiters number lines operation)
    (unbroken : ∀ line ∈ lines, Unbroken line) :
    Unbroken delimiters.opening ∧ Unbroken delimiters.closing := by
  obtain ⟨opener, rest, shape, opens⟩ := block.opened.marker
  rw [shape] at unbroken
  exact unbroken_of_opens opens (unbroken opener List.mem_cons_self)

/-- What was read is printable.  Without operations the delimiters can be any. -/
theorem printable_of_parse {text : Text} {operations : List Operation}
    (parsed : parse delimiters text = .ok operations) :
    (operations ≠ [] → Unbroken delimiters.opening ∧ Unbroken delimiters.closing) ∧
      ∀ operation ∈ operations, operation.Printable delimiters := by
  have document : Document delimiters (linesOf text) operations := document_of_parseLines parsed
  have blocks := Sequence.restrict document (unbroken_of_mem_linesOf text)
  constructor
  · intro filled
    obtain ⟨operation, member⟩ := List.exists_mem_of_ne_nil operations filled
    exact blocks.forall_of_block (fun _ _ _ part => unbroken_of_block part.1 part.2)
      operation member
  · exact blocks.forall_of_block fun _ _ _ part => printable_of_block part.1 part.2

theorem parse_print_of_parse {text : Text} {operations : List Operation}
    (present : delimiters.opening ≠ []) (parsed : parse delimiters text = .ok operations) :
    parse delimiters (print delimiters operations) =
      .ok (Operation.placedAll delimiters 0 operations) := by
  obtain ⟨unbroken, each⟩ := printable_of_parse parsed
  exact parseLines_of_document (Operation.document_print present unbroken each)

namespace Operation

mutual
theorem withoutLines_placed (used : Nat) :
    (operation : Operation) →
    (operation.placed delimiters used).withoutLines = operation.withoutLines
  | .write header content => rfl
  | .run header content => rfl
  | .search header pattern upTo replacement => rfl
  | .tasks header operations => by
      rw [placed, withoutLines, withoutLines, withoutLinesAll_placedAll _ operations]
      rfl

theorem withoutLinesAll_placedAll (used : Nat) :
    (operations : List Operation) →
    withoutLinesAll (placedAll delimiters used operations) = withoutLinesAll operations
  | [] => rfl
  | first :: rest => by
      rw [placedAll, withoutLinesAll, withoutLinesAll, withoutLines_placed used first,
        withoutLinesAll_placedAll _ rest]
end

end Operation

/-- Formatting a script that is accepted gives a script that is accepted and
denotes the same operations up to their lines. -/
theorem format_keeps_operations {text : Text} {operations : List Operation}
    (present : delimiters.opening ≠ []) (parsed : parse delimiters text = .ok operations) :
    ∃ again, parse delimiters (print delimiters operations) = .ok again ∧
      Operation.withoutLinesAll again = Operation.withoutLinesAll operations :=
  ⟨Operation.placedAll delimiters 0 operations, parse_print_of_parse present parsed,
    Operation.withoutLinesAll_placedAll 0 operations⟩

theorem format_keeps_nested_search :
    parse .standard
        "note\n<---TASKS by='\"me\"'--->\n<---SEARCH--->\n\n<---END--->\n<---END--->".toList =
      .ok [.tasks ⟨2, [⟨"by".toList, "\"me\"".toList⟩]⟩ [.search ⟨3, []⟩ [] none []]] ∧
    ∃ again,
      parse .standard (print .standard
        [.tasks ⟨2, [⟨"by".toList, "\"me\"".toList⟩]⟩ [.search ⟨3, []⟩ [] none []]]) = .ok again ∧
      Operation.withoutLinesAll again =
        [.tasks ⟨0, [⟨"by".toList, "\"me\"".toList⟩]⟩ [.search ⟨0, []⟩ [] none []]] := by
  have parsed : parse .standard
      "note\n<---TASKS by='\"me\"'--->\n<---SEARCH--->\n\n<---END--->\n<---END--->".toList =
        .ok [.tasks ⟨2, [⟨"by".toList, "\"me\"".toList⟩]⟩ [.search ⟨3, []⟩ [] none []]] := by
    decide +kernel
  exact ⟨parsed, format_keeps_operations (by decide) parsed⟩

end ChangeScript

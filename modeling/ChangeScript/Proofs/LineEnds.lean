/-
Line ends of a script.

A script with line feeds for all its line ends is read as the same script: the
same operations on the same lines, or the same rejection.  What is read holds no
carriage return, and names and values hold no line end at all.
-/

import ChangeScript.Proofs.RoundTrip

set_option autoImplicit false

namespace ChangeScript

open Text

def joinLineEnds : Text → Text
  | [] => []
  | '\r' :: '\n' :: rest => '\n' :: joinLineEnds rest
  | c :: rest => c :: joinLineEnds rest

/-- Put a line feed for every carriage return with a line feed behind it, and for
every carriage return that is left. -/
def feedsOnly (text : Text) : Text :=
  (joinLineEnds text).map fun c => if c = '\r' then '\n' else c

theorem feedsOnly_returnFeed (rest : Text) :
    feedsOnly ('\r' :: '\n' :: rest) = '\n' :: feedsOnly rest := by
  rw [feedsOnly, joinLineEnds, List.map_cons, if_neg (by decide)]
  rfl

theorem feedsOnly_cons {c : Char} {rest : Text}
    (single : ∀ tail, c = '\r' → rest = '\n' :: tail → False) :
    feedsOnly (c :: rest) = (if c = '\r' then '\n' else c) :: feedsOnly rest := by
  rw [feedsOnly, joinLineEnds, List.map_cons]
  · rfl
  · exact single

theorem linesOf_feedsOnly (text : Text) : linesOf (feedsOnly text) = linesOf text := by
  fun_induction linesOf text with
  | case1 => rfl
  | case2 rest ih => rw [feedsOnly_returnFeed, linesOf_feed, ih]
  | case3 c rest single ends ih =>
      have isFeed : (if c = '\r' then '\n' else c) = '\n' := by
        rcases endsLine_eq_true_iff.mp ends with rfl | rfl <;> rfl
      rw [feedsOnly_cons single, isFeed, linesOf_feed, ih]
  | case4 c rest single plain ih =>
      have other : c ≠ '\r' := by
        rintro rfl
        exact plain rfl
      rw [feedsOnly_cons single, if_neg other,
        linesOf_cons_of_not_endsLine (Bool.eq_false_iff.mpr plain), ih]

namespace Operation

def buffers : Operation → List Text
  | .write _ content => [content]
  | .run _ content => [content]
  | .search _ pattern upTo replacement => pattern :: replacement :: upTo.toList
  | .tasks _ _ => []

/-- No carriage return in the buffers of an operation, and no line end in its
attributes.  What is inside a tasks block counts on its own. -/
structure FreeOfReturns (operation : Operation) : Prop where
  buffers : ∀ buffer ∈ operation.buffers, '\r' ∉ buffer
  names : ∀ entry ∈ operation.attributes, '\r' ∉ entry.name ∧ '\n' ∉ entry.name
  values : ∀ entry ∈ operation.attributes, '\r' ∉ entry.value ∧ '\n' ∉ entry.value

end Operation

theorem Unbroken.notMem {text : Text} (unbroken : Unbroken text) : '\r' ∉ text ∧ '\n' ∉ text :=
  ⟨fun member => absurd (unbroken '\r' member) (by decide),
    fun member => absurd (unbroken '\n' member) (by decide)⟩

namespace Operation

variable {delimiters : Delimiters}

private theorem freeOfReturns_of_buffers {operation : Operation}
    (attributes : Attribute.Printable operation.attributes)
    (buffers : ∀ buffer ∈ operation.buffers, '\r' ∉ buffer) : operation.FreeOfReturns where
  buffers := buffers
  names := fun entry member =>
    (Attribute.unbroken_name (attributes.plain entry member)).notMem
  values := fun entry member => (attributes.unbroken entry member).notMem

theorem PrintableLeaf.freeOfReturns {operation : Operation}
    (printable : operation.PrintableLeaf delimiters) : operation.FreeOfReturns := by
  cases operation with
  | write header content =>
      obtain ⟨attributes, fits⟩ := printable
      exact freeOfReturns_of_buffers attributes (List.forall_mem_singleton.mpr fits.noReturn)
  | run header content =>
      obtain ⟨attributes, fits⟩ := printable
      exact freeOfReturns_of_buffers attributes (List.forall_mem_singleton.mpr fits.noReturn)
  | search header pattern upTo replacement =>
      obtain ⟨attributes, inside, between, behind⟩ := printable
      refine freeOfReturns_of_buffers attributes ?_
      simp only [buffers, List.forall_mem_cons, Option.mem_toList]
      exact ⟨inside.noReturn, behind.noReturn, fun last same => (between last same).noReturn⟩
  | tasks header operations => exact printable.elim

theorem preorder_of_printableLeaf {operation : Operation}
    (printable : operation.PrintableLeaf delimiters) : operation.preorder = [operation] := by
  cases operation with
  | write header content => rfl
  | run header content => rfl
  | search header pattern upTo replacement => rfl
  | tasks header operations => exact printable.elim

theorem Printable.freeOfReturns {operation : Operation}
    (printable : operation.Printable delimiters) :
    ∀ inner ∈ operation.preorder, inner.FreeOfReturns := by
  cases printable with
  | leaf leaf =>
      rw [preorder_of_printableLeaf leaf, List.forall_mem_singleton]
      exact leaf.freeOfReturns
  | @tasks header operations attributes leaves =>
      rw [preorder, List.forall_mem_cons]
      refine ⟨freeOfReturns_of_buffers attributes (List.forall_mem_nil _), ?_⟩
      intro inner inside
      obtain ⟨child, member, same⟩ := mem_preorderAll_iff.mp inside
      rw [preorder_of_printableLeaf (leaves child member), List.mem_singleton] at same
      rw [same]
      exact (leaves child member).freeOfReturns

end Operation

/-- Line ends do not change what is read, and do not get into it. -/
theorem parse_feedsOnly (delimiters : Delimiters) (text : Text) :
    parse delimiters (feedsOnly text) = parse delimiters text ∧
    ∀ operations, parse delimiters text = .ok operations →
      ∀ operation ∈ Operation.preorderAll operations, operation.FreeOfReturns := by
  constructor
  · rw [parse, parse, linesOf_feedsOnly]
  · intro operations parsed operation inside
    obtain ⟨outer, member, within⟩ := Operation.mem_preorderAll_iff.mp inside
    exact ((printable_of_parse parsed).2 outer member).freeOfReturns operation within

/-- Every kind of line end in one script; a line feed and a carriage return, in this
order, end two lines. -/
theorem parse_feedsOnly_mixed :
    feedsOnly "<---TASKS a='x'--->\r\n<---RUN--->\rls\n\r<---END--->\r\r\n<---END--->".toList =
      "<---TASKS a='x'--->\n<---RUN--->\nls\n\n<---END--->\n\n<---END--->".toList ∧
    parse .standard "<---TASKS a='x'--->\n<---RUN--->\nls\n\n<---END--->\n\n<---END--->".toList =
      .ok [.tasks ⟨1, [⟨['a'], ['x']⟩]⟩ [.run ⟨2, []⟩ "ls\n".toList]] ∧
    ∀ operation ∈ Operation.preorderAll
        [.tasks ⟨1, [⟨['a'], ['x']⟩]⟩ [.run ⟨2, []⟩ "ls\n".toList]],
      operation.FreeOfReturns := by
  have replaced :
      feedsOnly "<---TASKS a='x'--->\r\n<---RUN--->\rls\n\r<---END--->\r\r\n<---END--->".toList =
        "<---TASKS a='x'--->\n<---RUN--->\nls\n\n<---END--->\n\n<---END--->".toList := by
    decide +kernel
  have parsed : parse .standard
      "<---TASKS a='x'--->\r\n<---RUN--->\rls\n\r<---END--->\r\r\n<---END--->".toList =
        .ok [.tasks ⟨1, [⟨['a'], ['x']⟩]⟩ [.run ⟨2, []⟩ "ls\n".toList]] := by
    decide +kernel
  obtain ⟨same, free⟩ := parse_feedsOnly .standard
    "<---TASKS a='x'--->\r\n<---RUN--->\rls\n\r<---END--->\r\r\n<---END--->".toList
  rw [replaced] at same
  exact ⟨replaced, same.trans parsed, free _ parsed⟩

end ChangeScript

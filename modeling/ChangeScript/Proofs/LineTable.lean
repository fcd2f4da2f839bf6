/-
The table of the lines of a text.

A table lists spans of unbroken lines from the first byte of a text to its last,
with one whole line end between each two of them.  Offsets count the bytes of
the UTF-8 form of the text and lie between two of its characters.  Every text
has exactly one table, and the spans of its lines are that table.
-/

import Mathlib.Data.List.Chain
import ChangeScript.Proofs.Spans

set_option autoImplicit false

namespace ChangeScript

open Text

/-- An offset at which the UTF-8 form of a text can be cut. -/
def Boundary (text : Text) (offset : Nat) : Prop :=
  String.Pos.Raw.IsValid (String.ofList text) ⟨offset⟩

namespace Text

theorem byteSize_eq_utf8ByteSize (text : Text) :
    byteSize text = (String.ofList text).utf8ByteSize := by
  induction text with
  | nil => rfl
  | cons c rest ih =>
      rw [byteSize, ih, String.ofList_cons, String.utf8ByteSize_append,
        String.utf8ByteSize_singleton]

theorem eq_nil_of_byteSize_eq_zero {text : Text} (empty : byteSize text = 0) : text = [] := by
  cases text with
  | nil => rfl
  | cons c rest =>
      have positive := c.utf8Size_pos
      rw [byteSize] at empty
      omega

end Text

theorem boundary_iff {text : Text} {offset : Nat} :
    Boundary text offset ↔ ∃ front rest, text = front ++ rest ∧ offset = byteSize front := by
  rw [Boundary, String.Pos.Raw.isValid_ofList]
  constructor
  · rintro ⟨count, size⟩
    refine ⟨text.take count, text.drop count, (List.take_append_drop count text).symm, ?_⟩
    rw [byteSize_eq_utf8ByteSize]
    exact size
  · rintro ⟨front, rest, rfl, rfl⟩
    refine ⟨front.length, ?_⟩
    rw [List.take_left, ← byteSize_eq_utf8ByteSize]

theorem boundary_byteSize (front rest : Text) : Boundary (front ++ rest) (byteSize front) :=
  boundary_iff.mpr ⟨front, rest, rfl, rfl⟩

theorem boundary_iff_takeBytes {text : Text} {offset : Nat} :
    Boundary text offset ↔ byteSize (takeBytes offset text) = offset := by
  rw [boundary_iff]
  constructor
  · rintro ⟨front, rest, rfl, rfl⟩
    rw [takeBytes_append]
  · intro fits
    exact ⟨takeBytes offset text, dropBytes offset text,
      (takeBytes_append_dropBytes offset text).symm, fits.symm⟩

instance (text : Text) (offset : Nat) : Decidable (Boundary text offset) :=
  decidable_of_iff _ boundary_iff_takeBytes.symm

theorem Boundary.exists_part {front rest : Text} {offset : Nat}
    (boundary : Boundary (front ++ rest) offset) (behind : byteSize front ≤ offset) :
    ∃ part more, rest = part ++ more ∧ offset = byteSize (front ++ part) := by
  obtain ⟨taken, left, same, rfl⟩ := boundary_iff.mp boundary
  rcases List.append_eq_append_iff.mp same with ⟨part, rfl, rfl⟩ | ⟨extra, rfl, rfl⟩
  · exact ⟨part, left, rfl, rfl⟩
  · rw [byteSize_append] at behind
    have nothing : extra = [] := eq_nil_of_byteSize_eq_zero (by omega)
    subst nothing
    exact ⟨[], rest, rfl, by rw [List.append_nil, List.append_nil]⟩

/-- A line end as a whole, in front of `rest`: a carriage return takes the line
feed behind it to itself. -/
def LineEnd (lineEnd rest : Text) : Prop :=
  lineEnd = ['\r', '\n'] ∨ lineEnd = ['\r'] ∧ rest.head? ≠ some '\n' ∨ lineEnd = ['\n']

instance (lineEnd rest : Text) : Decidable (LineEnd lineEnd rest) :=
  inferInstanceAs (Decidable (_ ∨ _ ∧ _ ∨ _))

namespace Span

def gap (first second : Span) : Span := ⟨first.stop, second.start⟩

structure IsLine (text : Text) (span : Span) : Prop where
  ordered : span.start ≤ span.stop
  begins : Boundary text span.start
  ends : Boundary text span.stop
  unbroken : Unbroken (span.slice text)

instance (text : Text) (span : Span) : Decidable (span.IsLine text) :=
  decidable_of_iff
    (span.start ≤ span.stop ∧ Boundary text span.start ∧ Boundary text span.stop ∧
      Unbroken (span.slice text))
    ⟨fun ⟨ordered, begins, ends, unbroken⟩ => ⟨ordered, begins, ends, unbroken⟩,
      fun line => ⟨line.ordered, line.begins, line.ends, line.unbroken⟩⟩

def Adjoins (text : Text) (first second : Span) : Prop :=
  LineEnd ((first.gap second).slice text) (dropBytes second.start text)

instance (text : Text) (first second : Span) : Decidable (Adjoins text first second) :=
  inferInstanceAs (Decidable (LineEnd _ _))

end Span

/-- Lines from the byte `start` of a text to its end, each with one line end
between it and the next. -/
structure LineTable (text : Text) (start : Nat) (spans : List Span) : Prop where
  lines : ∀ span ∈ spans, span.IsLine text
  gaps : spans.IsChain (Span.Adjoins text)
  first : spans.head?.map Span.start = some start
  last : spans.getLast?.map Span.stop = some (byteSize text)

instance (text : Text) (start : Nat) (spans : List Span) :
    Decidable (LineTable text start spans) :=
  decidable_of_iff
    ((∀ span ∈ spans, span.IsLine text) ∧ spans.IsChain (Span.Adjoins text) ∧
      spans.head?.map Span.start = some start ∧
      spans.getLast?.map Span.stop = some (byteSize text))
    ⟨fun ⟨lines, gaps, first, last⟩ => ⟨lines, gaps, first, last⟩,
      fun table => ⟨table.lines, table.gaps, table.first, table.last⟩⟩

def weave (text : Text) : List Span → Text
  | [] => []
  | [only] => only.slice text
  | first :: second :: rest =>
      first.slice text ++ (first.gap second).slice text ++ weave text (second :: rest)

/-- How many line ends a text has.  Each is counted at its last character: a line
feed, or a carriage return without a line feed behind it. -/
def lineEndCount : Text → Nat
  | [] => 0
  | c :: rest =>
      if c = '\n' ∨ c = '\r' ∧ rest.head? ≠ some '\n' then lineEndCount rest + 1
      else lineEndCount rest

/-- A text behind `offset` bytes, as unbroken lines with one line end between
each two of them, and the spans that these lines take up. -/
inductive Divided : Nat → Text → List Span → Prop
  | last {offset : Nat} {line : Text} (unbroken : Unbroken line) :
      Divided offset line [⟨offset, offset + byteSize line⟩]
  | next {offset : Nat} {line lineEnd rest : Text} {spans : List Span} (unbroken : Unbroken line)
      (ends : LineEnd lineEnd rest)
      (behind : Divided (offset + byteSize line + byteSize lineEnd) rest spans) :
      Divided offset (line ++ (lineEnd ++ rest)) (⟨offset, offset + byteSize line⟩ :: spans)

theorem Divided.exists_head {offset : Nat} {text : Text} {spans : List Span}
    (divided : Divided offset text spans) :
    ∃ stop more, spans = ⟨offset, stop⟩ :: more := by
  cases divided with
  | last unbroken => exact ⟨_, _, rfl⟩
  | next unbroken ends behind => exact ⟨_, _, rfl⟩

/-! ### The scan divides a text -/

/-- The scan of a line of which `line` has been read. -/
private theorem divided_lineSpansFrom {start position : Nat} {text : Text} (line : Text)
    (unbroken : Unbroken line) (reaches : position = start + byteSize line) :
    Divided start (line ++ text) (lineSpansFrom start position text) := by
  fun_induction lineSpansFrom start position text generalizing line with
  | case1 start position =>
      rw [List.append_nil, reaches]
      exact .last unbroken
  | case2 start position rest ih =>
      have behind := ih [] Unbroken.nil rfl
      subst reaches
      exact .next unbroken (Or.inl rfl) behind
  | case3 start position c rest single ends ih =>
      have behind := ih [] Unbroken.nil rfl
      have size : byteSize [c] = 1 := by rw [byteSize, byteSize, utf8Size_of_endsLine ends]
      have whole : LineEnd [c] rest := by
        rcases endsLine_eq_true_iff.mp ends with rfl | rfl
        · refine Or.inr (Or.inl ⟨rfl, ?_⟩)
          intro feed
          obtain ⟨tail, rfl⟩ := List.head?_eq_some_iff.mp feed
          exact single tail rfl rfl
        · exact Or.inr (Or.inr rfl)
      subst reaches
      rw [← size] at behind ⊢
      exact .next unbroken whole behind
  | case4 start position c rest single plain ih =>
      have longer : Unbroken (line ++ [c]) := by
        apply unbroken.append
        intro d member
        rw [List.mem_singleton.mp member]
        exact Bool.eq_false_iff.mpr plain
      have divided := ih (line ++ [c]) longer (by
        rw [reaches, byteSize_append, byteSize, byteSize, Nat.add_zero, Nat.add_assoc])
      rw [List.append_assoc] at divided
      exact divided

theorem divided_lineSpans (text : Text) : Divided 0 text (lineSpans text) :=
  divided_lineSpansFrom [] Unbroken.nil rfl

private theorem lineSpansFrom_append {line : Text} (unbroken : Unbroken line)
    (start position : Nat) (rest : Text) :
    lineSpansFrom start position (line ++ rest) =
      lineSpansFrom start (position + byteSize line) rest := by
  induction line generalizing position with
  | nil => rfl
  | cons c line ih =>
      have plain := unbroken c List.mem_cons_self
      have later : Unbroken line := unbroken.of_subset (List.subset_cons_self c line)
      rw [List.cons_append, lineSpansFrom, if_neg (by rw [plain]; exact Bool.false_ne_true),
        ih later, byteSize, Nat.add_assoc]
      intro tail isReturn _shape
      rw [isReturn] at plain
      cases plain

private theorem lineSpansFrom_lineEnd {lineEnd rest : Text} (ends : LineEnd lineEnd rest)
    (start position : Nat) :
    lineSpansFrom start position (lineEnd ++ rest) =
      ⟨start, position⟩ ::
        lineSpansFrom (position + byteSize lineEnd) (position + byteSize lineEnd) rest := by
  rcases ends with rfl | ⟨rfl, alone⟩ | rfl
  · rfl
  · rw [List.singleton_append, lineSpansFrom]
    · rfl
    · rintro tail _isReturn rfl
      exact alone rfl
  · rw [List.singleton_append, lineSpansFrom]
    · rfl
    · intro tail isReturn _shape
      exact absurd isReturn (by decide)

/-- A text can be divided in one way only, and that is how the scan divides it. -/
theorem Divided.eq_lineSpansFrom {offset : Nat} {text : Text} {spans : List Span}
    (divided : Divided offset text spans) : spans = lineSpansFrom offset offset text := by
  induction divided with
  | @last offset line unbroken =>
      have whole := lineSpansFrom_append unbroken offset offset []
      rw [List.append_nil] at whole
      rw [whole, lineSpansFrom]
  | next unbroken ends _behind ih =>
      rw [lineSpansFrom_append unbroken, lineSpansFrom_lineEnd ends, ih]

private theorem slice_line (front line rest : Text) :
    (⟨byteSize front, byteSize front + byteSize line⟩ : Span).slice (front ++ (line ++ rest)) =
      line := by
  rw [← byteSize_append, ← List.append_assoc]
  exact Span.slice_append front line rest

private theorem isLine_of_unbroken {line : Text} (unbroken : Unbroken line) (front rest : Text) :
    (⟨byteSize front, byteSize front + byteSize line⟩ : Span).IsLine (front ++ (line ++ rest)) where
  ordered := Nat.le_add_right _ _
  begins := boundary_byteSize front (line ++ rest)
  ends := by
    rw [← byteSize_append, ← List.append_assoc]
    exact boundary_byteSize (front ++ line) rest
  unbroken := by
    rw [slice_line]
    exact unbroken

private theorem adjoins_of_lineEnd {lineEnd rest : Text} (ends : LineEnd lineEnd rest)
    (front : Text) {first second : Span} (closes : first.stop = byteSize front)
    (opens : second.start = byteSize front + byteSize lineEnd) :
    Span.Adjoins (front ++ (lineEnd ++ rest)) first second := by
  have behind : dropBytes second.start (front ++ (lineEnd ++ rest)) = rest := by
    rw [opens, ← byteSize_append, ← List.append_assoc, dropBytes_append]
  rw [Span.Adjoins, Span.gap, behind, closes, opens, slice_line]
  exact ends

theorem Divided.lineTable {offset : Nat} {rest : Text} {spans : List Span}
    (divided : Divided offset rest spans) (front : Text) (begins : offset = byteSize front) :
    LineTable (front ++ rest) offset spans := by
  induction divided generalizing front with
  | @last offset line unbroken =>
      have isLine := isLine_of_unbroken unbroken front []
      rw [List.append_nil] at isLine
      subst begins
      refine ⟨List.forall_mem_singleton.mpr isLine, List.isChain_singleton _, rfl, ?_⟩
      rw [byteSize_append]
      rfl
  | @next offset line lineEnd rest spans unbroken ends behind ih =>
      subst begins
      have isLine := isLine_of_unbroken unbroken front (lineEnd ++ rest)
      have table := ih (front ++ line ++ lineEnd) (by rw [byteSize_append, byteSize_append])
      have regroup : front ++ line ++ lineEnd ++ rest = front ++ (line ++ (lineEnd ++ rest)) := by
        simp only [List.append_assoc]
      rw [regroup] at table
      obtain ⟨stop, more, rfl⟩ := behind.exists_head
      refine ⟨List.forall_mem_cons.mpr ⟨isLine, table.lines⟩, ?_, rfl, ?_⟩
      · refine List.isChain_cons_cons.mpr ⟨?_, table.gaps⟩
        rw [← List.append_assoc]
        exact adjoins_of_lineEnd ends (front ++ line) (byteSize_append front line).symm
          (by rw [byteSize_append])
      · rw [List.getLast?_cons_cons]
        exact table.last

theorem Divided.weave_eq {offset : Nat} {rest : Text} {spans : List Span}
    (divided : Divided offset rest spans) (front : Text) (begins : offset = byteSize front) :
    weave (front ++ rest) spans = rest := by
  induction divided generalizing front with
  | @last offset line unbroken =>
      have sliced := slice_line front line []
      rw [List.append_nil] at sliced
      rw [weave, begins, sliced]
  | @next offset line lineEnd rest spans unbroken ends behind ih =>
      subst begins
      have woven := ih (front ++ line ++ lineEnd) (by rw [byteSize_append, byteSize_append])
      have between := slice_line (front ++ line) lineEnd rest
      simp only [List.append_assoc, byteSize_append] at woven between
      obtain ⟨stop, more, rfl⟩ := behind.exists_head
      rw [weave, slice_line, Span.gap, between, woven, List.append_assoc]

theorem Divided.le_start {offset : Nat} {text : Text} {spans : List Span}
    (divided : Divided offset text spans) : ∀ span ∈ spans, offset ≤ span.start := by
  induction divided with
  | last unbroken =>
      rw [List.forall_mem_singleton]
  | next unbroken ends behind ih =>
      rw [List.forall_mem_cons]
      refine ⟨Nat.le_refl _, ?_⟩
      intro span member
      have bound := ih span member
      omega

private theorem LineEnd.byteSize_pos {lineEnd rest : Text} (ends : LineEnd lineEnd rest) :
    0 < byteSize lineEnd := by
  rcases ends with rfl | ⟨rfl, _⟩ | rfl <;> decide

theorem Divided.ascending {offset : Nat} {text : Text} {spans : List Span}
    (divided : Divided offset text spans) :
    spans.Pairwise fun first second => first.stop < second.start := by
  induction divided with
  | last unbroken => exact List.pairwise_singleton _ _
  | next unbroken ends behind ih =>
      refine List.pairwise_cons.mpr ⟨?_, ih⟩
      intro span member
      have bound := behind.le_start span member
      have positive := ends.byteSize_pos
      change _ + _ < span.start
      omega

private theorem lineEndCount_append {line : Text} (unbroken : Unbroken line) (rest : Text) :
    lineEndCount (line ++ rest) = lineEndCount rest := by
  induction line with
  | nil => rfl
  | cons c line ih =>
      have plain := unbroken c List.mem_cons_self
      have skipped : ¬(c = '\n' ∨ c = '\r' ∧ (line ++ rest).head? ≠ some '\n') := by
        rintro (rfl | ⟨rfl, _⟩)
        · cases plain
        · cases plain
      rw [List.cons_append, lineEndCount, if_neg skipped]
      exact ih (unbroken.of_subset (List.subset_cons_self c line))

private theorem lineEndCount_lineEnd {lineEnd rest : Text} (ends : LineEnd lineEnd rest) :
    lineEndCount (lineEnd ++ rest) = lineEndCount rest + 1 := by
  have feed : lineEndCount ('\n' :: rest) = lineEndCount rest + 1 := by
    rw [lineEndCount, if_pos (Or.inl rfl)]
  rcases ends with rfl | ⟨rfl, alone⟩ | rfl
  · have skipped : ¬('\r' = '\n' ∨ '\r' = '\r' ∧ ('\n' :: rest).head? ≠ some '\n') := by
      rintro (other | ⟨_, other⟩)
      · exact absurd other (by decide)
      · exact other rfl
    rw [List.cons_append, List.singleton_append, lineEndCount, if_neg skipped, feed]
  · rw [List.singleton_append, lineEndCount, if_pos (Or.inr ⟨rfl, alone⟩)]
  · exact feed

theorem Divided.length_eq {offset : Nat} {text : Text} {spans : List Span}
    (divided : Divided offset text spans) : spans.length = lineEndCount text + 1 := by
  induction divided with
  | @last offset line unbroken =>
      have counted := lineEndCount_append unbroken []
      rw [List.append_nil] at counted
      rw [counted]
      rfl
  | next unbroken ends behind ih =>
      rw [List.length_cons, ih, lineEndCount_append unbroken, lineEndCount_lineEnd ends]

/-! ### Tables divide their text -/

private theorem Span.Adjoins.lt {text : Text} {first second : Span}
    (adjoins : Span.Adjoins text first second) : first.stop < second.start := by
  rcases Nat.lt_or_ge first.stop second.start with below | above
  · exact below
  · have empty : (first.gap second).slice text = [] := by
      rw [Span.slice, Span.gap, Nat.sub_eq_zero_of_le above, takeBytes_zero]
    rw [Span.Adjoins, empty] at adjoins
    rcases adjoins with none | ⟨none, _⟩ | none <;> cases none

theorem LineTable.tail {text : Text} {start : Nat} {first second : Span} {more : List Span}
    (table : LineTable text start (first :: second :: more)) :
    LineTable text second.start (second :: more) where
  lines := fun span member => table.lines span (List.mem_cons_of_mem first member)
  gaps := (List.isChain_cons_cons.mp table.gaps).2
  first := rfl
  last := by
    rw [← table.last, List.getLast?_cons_cons]

/-- The table of what follows `front` divides it: its offsets are boundaries, so
that each span and each gap is a part of the text. -/
theorem LineTable.divided {front rest : Text} {spans : List Span}
    (table : LineTable (front ++ rest) (byteSize front) spans) :
    Divided (byteSize front) rest spans := by
  induction spans generalizing front rest with
  | nil => cases table.first
  | cons span more ih =>
      obtain ⟨start, stop⟩ := span
      obtain rfl : start = byteSize front := Option.some.inj table.first
      have line := table.lines _ List.mem_cons_self
      obtain ⟨part, left, rfl, rfl⟩ := line.ends.exists_part line.ordered
      have unbroken := line.unbroken
      rw [byteSize_append, slice_line] at unbroken
      cases more with
      | nil =>
          have closes : byteSize (front ++ part) = byteSize (front ++ (part ++ left)) :=
            Option.some.inj table.last
          simp only [byteSize_append] at closes
          obtain rfl : left = [] := eq_nil_of_byteSize_eq_zero (by omega)
          rw [List.append_nil, byteSize_append]
          exact .last unbroken
      | cons second more =>
          have adjoins := (List.isChain_cons_cons.mp table.gaps).1
          have opens := (table.tail.lines second List.mem_cons_self).begins
          have behind := table.tail
          rw [← List.append_assoc] at adjoins opens behind
          obtain ⟨lineEnd, rest, rfl, reaches⟩ := opens.exists_part (Nat.le_of_lt adjoins.lt)
          have ends : LineEnd lineEnd rest := by
            rw [Span.Adjoins, Span.gap, reaches, byteSize_append (front ++ part), slice_line,
              ← byteSize_append, ← List.append_assoc, dropBytes_append] at adjoins
            exact adjoins
          rw [reaches, ← List.append_assoc] at behind
          have divided := ih behind
          rw [byteSize_append, byteSize_append] at divided
          rw [byteSize_append]
          exact .next unbroken ends divided

/-- The spans of the lines of a text are its table, in ascending order and one
more than its line ends.  With the line ends between them they are the text, and
no other list of spans is a table of it. -/
theorem lineSpans_only_lineTable (text : Text) :
    LineTable text 0 (lineSpans text) ∧
    (lineSpans text).Pairwise (fun first second => first.stop < second.start) ∧
    weave text (lineSpans text) = text ∧
    (lineSpans text).length = lineEndCount text + 1 ∧
    ∀ spans, LineTable text 0 spans → spans = lineSpans text := by
  have divided := divided_lineSpans text
  refine ⟨divided.lineTable [] rfl, divided.ascending, divided.weave_eq [] rfl,
    divided.length_eq, ?_⟩
  intro spans table
  exact (@LineTable.divided [] text spans table).eq_lineSpansFrom

/-- Each kind of line end, and two carriage returns of which the second has a
line feed behind it, after a character of two bytes. -/
theorem lineSpans_only_lineTable_mixed :
    LineTable "é\n\r\r\nb".toList 0 [⟨0, 2⟩, ⟨3, 3⟩, ⟨4, 4⟩, ⟨6, 7⟩] ∧
    lineSpans "é\n\r\r\nb".toList = [⟨0, 2⟩, ⟨3, 3⟩, ⟨4, 4⟩, ⟨6, 7⟩] := by
  have table : LineTable "é\n\r\r\nb".toList 0 [⟨0, 2⟩, ⟨3, 3⟩, ⟨4, 4⟩, ⟨6, 7⟩] := by
    decide
  obtain ⟨_, _, _, _, only⟩ := lineSpans_only_lineTable "é\n\r\r\nb".toList
  exact ⟨table, (only _ table).symm⟩

end ChangeScript

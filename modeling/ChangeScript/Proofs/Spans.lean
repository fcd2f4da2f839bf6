/-
Spans of lines.

The spans of the lines of a text, in bytes, cut the lines out of it, although
spans and lines are found by two scans of their own.  A third scan looks up the
span of one line and stops there; it finds what the list of all spans holds.
-/

import ChangeScript.Proofs.Lines

set_option autoImplicit false

namespace ChangeScript

open Text

namespace Text

theorem byteSize_append (left right : Text) :
    byteSize (left ++ right) = byteSize left + byteSize right := by
  induction left with
  | nil => rw [List.nil_append, byteSize, Nat.zero_add]
  | cons c left ih => rw [List.cons_append, byteSize, byteSize, ih, Nat.add_assoc]

theorem takeBytes_zero (text : Text) : takeBytes 0 text = [] := by
  cases text with
  | nil => rfl
  | cons c rest => rw [takeBytes, if_neg (Nat.not_le.mpr c.utf8Size_pos)]

theorem takeBytes_cons {bytes : Nat} {c : Char} (fits : c.utf8Size ≤ bytes) (rest : Text) :
    takeBytes bytes (c :: rest) = c :: takeBytes (bytes - c.utf8Size) rest := by
  rw [takeBytes, if_pos fits]

theorem takeBytes_append (part rest : Text) : takeBytes (byteSize part) (part ++ rest) = part := by
  induction part with
  | nil => exact takeBytes_zero rest
  | cons c part ih =>
      rw [List.cons_append, byteSize, takeBytes_cons (Nat.le_add_right _ _),
        Nat.add_sub_cancel_left, ih]

theorem dropBytes_append (part rest : Text) : dropBytes (byteSize part) (part ++ rest) = rest := by
  have whole := takeBytes_append_dropBytes (byteSize part) (part ++ rest)
  rw [takeBytes_append] at whole
  exact List.append_cancel_left whole

end Text

theorem utf8Size_of_endsLine {c : Char} (ends : endsLine c = true) : c.utf8Size = 1 := by
  rcases endsLine_eq_true_iff.mp ends with rfl | rfl <;> rfl

theorem Span.slice_append (front line rest : Text) :
    (⟨byteSize front, byteSize (front ++ line)⟩ : Span).slice (front ++ line ++ rest) = line := by
  have length : byteSize (front ++ line) - byteSize front = byteSize line := by
    rw [byteSize_append, Nat.add_sub_cancel_left]
  rw [Span.slice, length, List.append_assoc, dropBytes_append, takeBytes_append]

private theorem modifyHead_nil_append (parts : List Text) :
    parts.modifyHead ([] ++ ·) = parts :=
  congrFun List.modifyHead_id parts

private theorem modifyHead_append_modifyHead_cons (line : Text) (c : Char) (parts : List Text) :
    (parts.modifyHead (List.cons c)).modifyHead (line ++ ·) =
      parts.modifyHead (line ++ [c] ++ ·) := by
  rw [List.modifyHead_modifyHead]
  congr 1
  funext rest
  exact List.append_cons line c rest

/-- Spans taken from the middle of a text: `front` is before the current line, and
`line` is what has been read of it. -/
private theorem map_slice_lineSpansFrom {start position : Nat} {text : Text} (front line : Text)
    (begins : start = byteSize front) (reaches : position = byteSize (front ++ line)) :
    (lineSpansFrom start position text).map (fun span => span.slice (front ++ line ++ text)) =
      (linesOf text).modifyHead (line ++ ·) := by
  fun_induction lineSpansFrom start position text generalizing front line with
  | case1 start position =>
      rw [List.map_singleton, begins, reaches, Span.slice_append, linesOf, List.modifyHead_cons,
        List.append_nil]
  | case2 start position rest ih =>
      have size : position + 2 = byteSize (front ++ line ++ ['\r', '\n']) := by
        rw [byteSize_append, ← reaches]
        rfl
      have later := ih (front ++ line ++ ['\r', '\n']) [] size (by rw [List.append_nil, size])
      rw [modifyHead_nil_append, List.append_nil] at later
      rw [List.map_cons, begins, reaches, Span.slice_append, linesOf, List.modifyHead_cons,
        List.append_nil, ← later, reaches]
      simp only [List.append_assoc, List.cons_append, List.nil_append]
  | case3 start position c rest single ends ih =>
      have size : position + 1 = byteSize (front ++ line ++ [c]) := by
        rw [byteSize_append, ← reaches, byteSize, byteSize, utf8Size_of_endsLine ends]
      have later := ih (front ++ line ++ [c]) [] size (by rw [List.append_nil, size])
      rw [modifyHead_nil_append, List.append_nil] at later
      have shape : linesOf (c :: rest) = [] :: linesOf rest := by
        rw [linesOf, if_pos ends]
        exact single
      rw [List.map_cons, begins, reaches, Span.slice_append, shape, List.modifyHead_cons,
        List.append_nil, ← later, reaches]
      simp only [List.append_assoc, List.cons_append, List.nil_append]
  | case4 start position c rest single plain ih =>
      have size : position + c.utf8Size = byteSize (front ++ (line ++ [c])) := by
        rw [← List.append_assoc, byteSize_append, ← reaches, byteSize, byteSize, Nat.add_zero]
      have later := ih front (line ++ [c]) begins size
      rw [linesOf_cons_of_not_endsLine (Bool.eq_false_iff.mpr plain),
        modifyHead_append_modifyHead_cons, ← later]
      simp only [List.append_assoc, List.cons_append, List.nil_append]

theorem map_slice_lineSpans (text : Text) :
    (lineSpans text).map (fun span => span.slice text) = linesOf text := by
  have whole := @map_slice_lineSpansFrom 0 0 text [] [] rfl rfl
  rw [modifyHead_nil_append] at whole
  exact whole

private theorem lineSpanFrom_eq_getD (skipped start position : Nat) (text : Text) :
    lineSpanFrom skipped start position text =
      (lineSpansFrom start position text)[skipped]?.getD
        ⟨position + byteSize text, position + byteSize text⟩ := by
  fun_induction lineSpanFrom skipped start position text with
  | case1 start position => rfl
  | case2 skipped start position later =>
      obtain ⟨index, rfl⟩ := Nat.exists_eq_succ_of_ne_zero later
      rfl
  | case3 start position rest =>
      rw [lineSpansFrom]
      rfl
  | case4 skipped start position rest later ih =>
      obtain ⟨index, rfl⟩ := Nat.exists_eq_succ_of_ne_zero later
      have size : position + byteSize ('\r' :: '\n' :: rest) = position + 2 + byteSize rest := by
        change position + (1 + (1 + byteSize rest)) = _
        omega
      rw [ih, lineSpansFrom, List.getElem?_cons_succ, size, Nat.succ_sub_one]
  | case5 start position c rest single ends =>
      rw [lineSpansFrom, if_pos ends]
      · rfl
      · exact single
  | case6 skipped start position c rest single ends later ih =>
      obtain ⟨index, rfl⟩ := Nat.exists_eq_succ_of_ne_zero later
      have size : position + byteSize (c :: rest) = position + 1 + byteSize rest := by
        rw [byteSize, utf8Size_of_endsLine ends, Nat.add_assoc]
      rw [ih, lineSpansFrom, if_pos ends, List.getElem?_cons_succ, size, Nat.succ_sub_one]
      exact single
  | case7 skipped start position c rest single plain ih =>
      rw [ih, lineSpansFrom, if_neg plain, byteSize, Nat.add_assoc]
      exact single

theorem lineSpan_eq_getD (text : Text) (number : Nat) :
    lineSpan text number =
      (lineSpans text)[number - 1]?.getD ⟨byteSize text, byteSize text⟩ := by
  have found := lineSpanFrom_eq_getD (number - 1) 0 0 text
  rw [Nat.zero_add] at found
  exact found

/-- The lookup of one line agrees with the list of all spans.  The number zero
stands for the first line, and past the last line there is the empty span at the
end of the text. -/
theorem lineSpan_eq_entry_or_end (text : Text) (number : Nat) :
    (max number 1 ≤ (lineSpans text).length →
      (lineSpans text)[max number 1 - 1]? = some (lineSpan text number)) ∧
    ((lineSpans text).length < max number 1 →
      lineSpan text number = ⟨byteSize text, byteSize text⟩) := by
  have index : max number 1 - 1 = number - 1 := by omega
  rw [index, lineSpan_eq_getD]
  constructor
  · intro listed
    have inside : number - 1 < (lineSpans text).length := by omega
    rw [List.getElem?_eq_getElem inside, Option.getD_some]
  · intro past
    have outside : (lineSpans text).length ≤ number - 1 := by omega
    rw [List.getElem?_eq_none outside, Option.getD_none]

/-- Line zero, the last line and the line behind it, in a text with an empty line
between two carriage returns. -/
theorem lineSpan_eq_entry_or_end_mixed :
    (max 0 1 ≤ (lineSpans "é\r\n\rb".toList).length ∧
      (lineSpans "é\r\n\rb".toList)[0]? = some (lineSpan "é\r\n\rb".toList 0)) ∧
    (max 3 1 ≤ (lineSpans "é\r\n\rb".toList).length ∧
      (lineSpans "é\r\n\rb".toList)[2]? = some (lineSpan "é\r\n\rb".toList 3)) ∧
    (lineSpans "é\r\n\rb".toList).length < max 4 1 ∧
      lineSpan "é\r\n\rb".toList 4 = ⟨6, 6⟩ := by
  have first : max 0 1 ≤ (lineSpans "é\r\n\rb".toList).length := by decide
  have last : max 3 1 ≤ (lineSpans "é\r\n\rb".toList).length := by decide
  have past : (lineSpans "é\r\n\rb".toList).length < max 4 1 := by decide
  exact ⟨⟨first, (lineSpan_eq_entry_or_end _ 0).1 first⟩,
    ⟨last, (lineSpan_eq_entry_or_end _ 3).1 last⟩,
    past, (lineSpan_eq_entry_or_end _ 4).2 past⟩

end ChangeScript

/-
Lines that hold no line end.

The lines of a text hold no line end, and unbroken lines are exactly the lines
of the text that joins them with line feeds.  Without carriage returns, the
lines of a text are its parts between line feeds.
-/

import ChangeScript.Lines

set_option autoImplicit false

namespace ChangeScript

open Text

theorem endsLine_eq_true_iff {c : Char} : endsLine c = true ↔ c = '\r' ∨ c = '\n' := by
  rw [endsLine, Bool.or_eq_true, decide_eq_true_eq, decide_eq_true_eq]

/-- A text without carriage returns and line feeds. -/
def Unbroken (text : Text) : Prop := ∀ c ∈ text, endsLine c = false

instance (text : Text) : Decidable (Unbroken text) :=
  List.decidableBAll (fun c => endsLine c = false) text

theorem Unbroken.nil : Unbroken [] := by
  intro c member
  cases member

theorem Unbroken.append {left right : Text} (first : Unbroken left) (second : Unbroken right) :
    Unbroken (left ++ right) := by
  intro c member
  rcases List.mem_append.mp member with before | behind
  · exact first c before
  · exact second c behind

theorem Unbroken.of_subset {part whole : Text} (unbroken : Unbroken whole)
    (inside : part ⊆ whole) : Unbroken part :=
  fun c member => unbroken c (inside member)

theorem linesOf_cons_of_not_endsLine {c : Char} (plain : endsLine c = false) (rest : Text) :
    linesOf (c :: rest) = (linesOf rest).modifyHead (List.cons c) := by
  rw [linesOf]
  · rw [if_neg (by rw [plain]; exact Bool.false_ne_true)]
  · intro tail isReturn _shape
    rw [isReturn] at plain
    cases plain

theorem linesOf_feed (rest : Text) : linesOf ('\n' :: rest) = [] :: linesOf rest := by
  rw [linesOf]
  · rfl
  · intro tail isReturn _shape
    exact absurd isReturn (by decide)

theorem linesOf_append_feed {line : Text} (unbroken : Unbroken line) (rest : Text) :
    linesOf (line ++ '\n' :: rest) = line :: linesOf rest := by
  induction line with
  | nil => exact linesOf_feed rest
  | cons c line ih =>
      have plain := unbroken c List.mem_cons_self
      have later : Unbroken line := unbroken.of_subset (List.subset_cons_self c line)
      rw [List.cons_append, linesOf_cons_of_not_endsLine plain, ih later]
      rfl

theorem linesOf_unbroken {line : Text} (unbroken : Unbroken line) : linesOf line = [line] := by
  induction line with
  | nil => rfl
  | cons c line ih =>
      have plain := unbroken c List.mem_cons_self
      have later : Unbroken line := unbroken.of_subset (List.subset_cons_self c line)
      rw [linesOf_cons_of_not_endsLine plain, ih later]
      rfl

/-- Unbroken lines are the lines of the text that joins them. -/
theorem linesOf_joinFeeds {lines : List Text} (present : lines ≠ [])
    (unbroken : ∀ line ∈ lines, Unbroken line) : linesOf (joinFeeds lines) = lines := by
  induction lines with
  | nil => exact absurd rfl present
  | cons first rest ih =>
      have firstUnbroken := unbroken first List.mem_cons_self
      cases rest with
      | nil => rw [joinFeeds, List.intercalate_singleton, linesOf_unbroken firstUnbroken]
      | cons second rest =>
          have shape : joinFeeds (first :: second :: rest) =
              first ++ '\n' :: joinFeeds (second :: rest) := by
            simp only [joinFeeds, List.intercalate_cons_cons, List.append_assoc,
              List.singleton_append]
          rw [shape, linesOf_append_feed firstUnbroken, ih (List.cons_ne_nil second rest)]
          intro line member
          exact unbroken line (List.mem_cons_of_mem first member)

private theorem unbroken_modifyHead_cons {c : Char} (plain : endsLine c = false)
    {parts : List Text} (unbroken : ∀ line ∈ parts, Unbroken line) :
    ∀ line ∈ parts.modifyHead (List.cons c), Unbroken line := by
  have single : Unbroken [c] := by
    intro other member
    rw [List.mem_singleton.mp member]
    exact plain
  cases parts with
  | nil => exact unbroken
  | cons first rest =>
      intro line member
      rcases List.mem_cons.mp member with same | later
      · rw [same]
        exact single.append (unbroken first List.mem_cons_self)
      · exact unbroken line (List.mem_cons_of_mem first later)

theorem unbroken_of_mem_linesOf (text : Text) : ∀ line ∈ linesOf text, Unbroken line := by
  fun_induction linesOf text with
  | case1 =>
      intro line member
      rw [List.mem_singleton.mp member]
      exact Unbroken.nil
  | case2 rest ih =>
      intro line member
      rcases List.mem_cons.mp member with same | later
      · rw [same]
        exact Unbroken.nil
      · exact ih line later
  | case3 c rest _ _ ih =>
      intro line member
      rcases List.mem_cons.mp member with same | later
      · rw [same]
        exact Unbroken.nil
      · exact ih line later
  | case4 c rest _ plain ih =>
      exact unbroken_modifyHead_cons (Bool.eq_false_iff.mpr plain) ih

theorem linesOf_ne_nil (text : Text) : linesOf text ≠ [] := by
  fun_induction linesOf text with
  | case1 => exact List.cons_ne_nil _ _
  | case2 rest _ => exact List.cons_ne_nil _ _
  | case3 c rest _ _ _ => exact List.cons_ne_nil _ _
  | case4 c rest _ _ ih => exact fun empty => ih (List.modifyHead_eq_nil_iff.mp empty)

theorem linesOf_cons_of_endsLine {c : Char} {rest : Text} (ends : endsLine c = true)
    (alone : c = '\r' → rest.head? ≠ some '\n') : linesOf (c :: rest) = [] :: linesOf rest := by
  rw [linesOf]
  · rw [if_pos ends]
  · intro tail isReturn shape
    rw [shape] at alone
    exact alone isReturn rfl

private theorem modifyHead_append_of_ne_nil (change : Text → Text) {parts : List Text}
    (present : parts ≠ []) (more : List Text) :
    (parts ++ more).modifyHead change = parts.modifyHead change ++ more := by
  cases parts with
  | nil => exact absurd rfl present
  | cons first rest => rfl

private theorem getLast?_of_cons {c last : Char} {rest : Text} (closed : rest.getLast? = some last) :
    (c :: rest).getLast? = some last := by
  cases rest with
  | nil => cases closed
  | cons d rest => rw [List.getLast?_cons_cons, closed]

/-- A line feed between two texts ends the last line of the first, unless it
completes a line end there. -/
theorem linesOf_append_feed_append (left right : Text) (whole : left.getLast? ≠ some '\r') :
    linesOf (left ++ '\n' :: right) = linesOf left ++ linesOf right := by
  fun_induction linesOf left with
  | case1 => exact linesOf_feed right
  | case2 rest ih =>
      have later : rest.getLast? ≠ some '\r' := fun closed =>
        whole (getLast?_of_cons (getLast?_of_cons closed))
      rw [List.cons_append, List.cons_append, linesOf, ih later, List.cons_append]
  | case3 c rest single ends ih =>
      have later : rest.getLast? ≠ some '\r' := fun closed => whole (getLast?_of_cons closed)
      have alone : c = '\r' → (rest ++ '\n' :: right).head? ≠ some '\n' := by
        intro isReturn
        cases rest with
        | nil => exact absurd (congrArg some isReturn) whole
        | cons d rest =>
            intro feed
            cases feed
            exact single rest isReturn rfl
      rw [List.cons_append, linesOf_cons_of_endsLine ends alone, ih later, List.cons_append]
  | case4 c rest _ plain ih =>
      have later : rest.getLast? ≠ some '\r' := fun closed => whole (getLast?_of_cons closed)
      rw [List.cons_append, linesOf_cons_of_not_endsLine (Bool.eq_false_iff.mpr plain), ih later,
        modifyHead_append_of_ne_nil _ (linesOf_ne_nil rest)]

/-- Without carriage returns only line feeds end a line. -/
theorem splitOn_eq_linesOf {text : Text} (noReturn : '\r' ∉ text) :
    text.splitOn '\n' = linesOf text := by
  induction text with
  | nil => rfl
  | cons c rest ih =>
      have later : '\r' ∉ rest := fun member => noReturn (List.mem_cons_of_mem c member)
      rw [List.splitOn_cons_eq_if_modifyHead, ih later]
      by_cases feed : c = '\n'
      · rw [feed, linesOf_feed, if_pos (beq_self_eq_true _)]
      · have plain : endsLine c = false := by
          have other : c ≠ '\r' := fun same => noReturn (by rw [same]; exact List.mem_cons_self)
          simp [endsLine, feed, other]
        rw [linesOf_cons_of_not_endsLine plain, if_neg (by rw [beq_iff_eq]; exact feed)]

private theorem mem_joinFeeds {c : Char} {lines : List Text} (member : c ∈ joinFeeds lines) :
    c = '\n' ∨ ∃ line ∈ lines, c ∈ line := by
  induction lines with
  | nil => cases member
  | cons first rest ih =>
      cases rest with
      | nil =>
          rw [joinFeeds, List.intercalate_singleton] at member
          exact Or.inr ⟨first, List.mem_cons_self, member⟩
      | cons second rest =>
          simp only [joinFeeds, List.intercalate_cons_cons, List.mem_append, List.mem_singleton]
            at member
          rcases member with (before | feed) | behind
          · exact Or.inr ⟨first, List.mem_cons_self, before⟩
          · exact Or.inl feed
          · rcases ih behind with feed | ⟨line, present, inside⟩
            · exact Or.inl feed
            · exact Or.inr ⟨line, List.mem_cons_of_mem first present, inside⟩

theorem return_not_mem_joinFeeds {lines : List Text} (unbroken : ∀ line ∈ lines, Unbroken line) :
    '\r' ∉ joinFeeds lines := by
  intro member
  rcases mem_joinFeeds member with feed | ⟨line, present, inside⟩
  · exact absurd feed (by decide)
  · exact absurd (unbroken line present '\r' inside) (by decide)

theorem splitOn_joinFeeds {lines : List Text} (present : lines ≠ [])
    (unbroken : ∀ line ∈ lines, Unbroken line) : (joinFeeds lines).splitOn '\n' = lines := by
  apply List.splitOn_intercalate '\n' _ present
  intro line member feed
  exact absurd (unbroken line member '\n' feed) (by decide)

theorem ne_nil_of_joinFeeds_ne_nil {lines : List Text} (filled : joinFeeds lines ≠ []) :
    lines ≠ [] := by
  intro empty
  rw [empty] at filled
  exact filled rfl

theorem unbroken_of_mem_splitOn {text : Text} (noReturn : '\r' ∉ text) :
    ∀ line ∈ text.splitOn '\n', Unbroken line := by
  rw [splitOn_eq_linesOf noReturn]
  exact unbroken_of_mem_linesOf text

end ChangeScript

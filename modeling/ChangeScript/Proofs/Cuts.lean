/-
Scripts cut off at the end of a line.

A text has one cut for each of its lines, and the lines of a cut are the lines
of the text up to there.  So a run over a cut is the beginning of the run over
the text: the fault that a text is refused for is the fault of every cut that
holds its line, shorter cuts have no fault but what they leave open, and a
longer cut that is accepted adds operations behind those of a shorter one.
-/

import ChangeScript.Proofs.Run
import ChangeScript.Proofs.Spans
import ChangeScript.Proofs.Tree

set_option autoImplicit false

namespace ChangeScript

open Text

/-- The beginnings of a text that reach to the end of one of its lines. -/
def beginnings : Text → List Text
  | [] => [[]]
  | '\r' :: '\n' :: rest => [] :: (beginnings rest).map fun cut => '\r' :: '\n' :: cut
  | c :: rest =>
      if endsLine c then [] :: (beginnings rest).map (c :: ·)
      else (beginnings rest).map (c :: ·)

theorem le_stop_of_mem_lineSpansFrom {start position : Nat} {text : Text} {span : Span}
    (member : span ∈ lineSpansFrom start position text) : position ≤ span.stop := by
  fun_induction lineSpansFrom start position text with
  | case1 start position =>
      cases List.mem_singleton.mp member
      exact Nat.le_refl position
  | case2 start position rest ih =>
      rcases List.mem_cons.mp member with rfl | later
      · exact Nat.le_refl position
      · have bound := ih later
        omega
  | case3 start position c rest _ _ ih =>
      rcases List.mem_cons.mp member with rfl | later
      · exact Nat.le_refl position
      · have bound := ih later
        omega
  | case4 start position c rest _ _ ih =>
      have bound := ih member
      omega

private theorem map_takeBytes_lineSpansFrom (start position : Nat) (text : Text) :
    (lineSpansFrom start position text).map (fun span => takeBytes (span.stop - position) text) =
      beginnings text := by
  -- Every span ends at `position` or later, so the bytes of a character that goes in front of
  -- all cuts can be taken off each of them.
  fun_induction lineSpansFrom start position text with
  | case1 start position => rfl
  | case2 start position rest ih =>
      rw [List.map_cons, Nat.sub_self, takeBytes_zero, beginnings, ← ih, List.map_map]
      congr 1
      apply List.map_congr_left
      intro span member
      have bound := le_stop_of_mem_lineSpansFrom member
      have first : ('\r').utf8Size ≤ span.stop - position := by
        change 1 ≤ span.stop - position
        omega
      have second : ('\n').utf8Size ≤ span.stop - position - ('\r').utf8Size := by
        change 1 ≤ span.stop - position - 1
        omega
      rw [takeBytes_cons first, takeBytes_cons second, Function.comp, Nat.sub_sub, Nat.sub_sub]
      rfl
  | case3 start position c rest single ends ih =>
      rw [List.map_cons, Nat.sub_self, takeBytes_zero, beginnings, if_pos ends, ← ih, List.map_map]
      · congr 1
        apply List.map_congr_left
        intro span member
        have bound := le_stop_of_mem_lineSpansFrom member
        have size := utf8Size_of_endsLine ends
        rw [takeBytes_cons (by omega), size, Nat.sub_sub]
        rfl
      · exact single
  | case4 start position c rest single plain ih =>
      rw [beginnings, if_neg plain, ← ih, List.map_map]
      · apply List.map_congr_left
        intro span member
        have bound := le_stop_of_mem_lineSpansFrom member
        rw [takeBytes_cons (by omega), Nat.sub_sub]
        rfl
      · exact single

theorem lineCuts_eq_beginnings (text : Text) : lineCuts text = beginnings text :=
  map_takeBytes_lineSpansFrom 0 0 text

private theorem length_beginnings (text : Text) :
    (beginnings text).length = (linesOf text).length := by
  fun_induction beginnings text with
  | case1 => rfl
  | case2 rest ih => rw [linesOf, List.length_cons, List.length_map, ih, List.length_cons]
  | case3 c rest single ends ih =>
      rw [linesOf, if_pos ends, List.length_cons, List.length_map, ih, List.length_cons]
      exact single
  | case4 c rest single plain ih =>
      rw [linesOf, if_neg plain, List.length_map, ih, List.length_modifyHead]
      exact single

private theorem head?_of_mem_beginnings {text cut : Text} (member : cut ∈ beginnings text) :
    cut = [] ∨ cut.head? = text.head? := by
  fun_induction beginnings text with
  | case1 => exact Or.inl (List.mem_singleton.mp member)
  | case2 rest _ =>
      rcases List.mem_cons.mp member with empty | later
      · exact Or.inl empty
      · obtain ⟨shorter, _inside, rfl⟩ := List.mem_map.mp later
        exact Or.inr rfl
  | case3 c rest _ _ _ =>
      rcases List.mem_cons.mp member with empty | later
      · exact Or.inl empty
      · obtain ⟨shorter, _inside, rfl⟩ := List.mem_map.mp later
        exact Or.inr rfl
  | case4 c rest _ _ _ =>
      obtain ⟨shorter, _inside, rfl⟩ := List.mem_map.mp member
      exact Or.inr rfl

private theorem linesOf_beginnings {text cut : Text} {index : Nat}
    (found : (beginnings text)[index]? = some cut) :
    linesOf cut = (linesOf text).take (index + 1) := by
  fun_induction beginnings text generalizing index cut with
  | case1 =>
      cases index with
      | zero =>
          cases found
          rfl
      | succ index => cases found
  | case2 rest ih =>
      cases index with
      | zero =>
          cases found
          rfl
      | succ index =>
          rw [List.getElem?_cons_succ, List.getElem?_map] at found
          obtain ⟨shorter, inside, rfl⟩ := Option.map_eq_some_iff.mp found
          rw [linesOf, linesOf, ih inside, List.take_succ_cons]
  | case3 c rest single ends ih =>
      have alone : c = '\r' → rest.head? ≠ some '\n' := by
        intro isReturn feed
        obtain ⟨tail, shape⟩ := List.head?_eq_some_iff.mp feed
        exact single tail isReturn shape
      rw [linesOf_cons_of_endsLine ends alone]
      cases index with
      | zero =>
          cases found
          rfl
      | succ index =>
          rw [List.getElem?_cons_succ, List.getElem?_map] at found
          obtain ⟨shorter, inside, rfl⟩ := Option.map_eq_some_iff.mp found
          have aloneHere : c = '\r' → shorter.head? ≠ some '\n' := by
            intro isReturn
            rcases head?_of_mem_beginnings (List.mem_of_getElem? inside) with empty | same
            · rw [empty]
              exact (Option.some_ne_none '\n').symm
            · rw [same]
              exact alone isReturn
          rw [linesOf_cons_of_endsLine ends aloneHere, ih inside, List.take_succ_cons]
  | case4 c rest _ plain ih =>
      rw [List.getElem?_map] at found
      obtain ⟨shorter, inside, rfl⟩ := Option.map_eq_some_iff.mp found
      have ordinary : endsLine c = false := Bool.eq_false_iff.mpr plain
      rw [linesOf_cons_of_not_endsLine ordinary, linesOf_cons_of_not_endsLine ordinary, ih inside,
        List.take_modifyHead]

theorem length_lineCuts (text : Text) : (lineCuts text).length = (linesOf text).length := by
  rw [lineCuts_eq_beginnings, length_beginnings]

theorem linesOf_lineCuts {text cut : Text} {index : Nat}
    (found : (lineCuts text)[index]? = some cut) :
    linesOf cut = (linesOf text).take (index + 1) := by
  rw [lineCuts_eq_beginnings] at found
  exact linesOf_beginnings found

/-- The text up to the end of its line with the given number, counted from one. -/
def CutAt (text : Text) (number : Nat) (cut : Text) : Prop :=
  1 ≤ number ∧ (lineCuts text)[number - 1]? = some cut

theorem exists_cutAt_iff {text : Text} {number : Nat} :
    (∃ cut, CutAt text number cut) ↔ 1 ≤ number ∧ number ≤ (linesOf text).length := by
  rw [← length_lineCuts]
  constructor
  · rintro ⟨cut, counted, found⟩
    obtain ⟨inside, _same⟩ := List.getElem?_eq_some_iff.mp found
    exact ⟨counted, by omega⟩
  · rintro ⟨counted, inside⟩
    exact ⟨_, counted, List.getElem?_eq_getElem (by omega)⟩

theorem CutAt.le {text cut : Text} {number : Nat} (here : CutAt text number cut) :
    number ≤ (linesOf text).length :=
  (exists_cutAt_iff.mp ⟨cut, here⟩).2

theorem CutAt.parse_eq {text cut : Text} {number : Nat} (delimiters : Delimiters)
    (here : CutAt text number cut) :
    parse delimiters cut = parseLines delimiters ((linesOf text).take number) := by
  obtain ⟨counted, found⟩ := here
  rw [parse, linesOf_lineCuts found, Nat.sub_add_cancel counted]

/-- There is a cut at every line.  A text that is refused in a line is refused
for the same fault when it is cut there or later, and for no fault but what is
left open when it is cut before.  A text that is read to its end is read to the
end of each cut.  Of two accepted cuts, the longer one goes on where the shorter
one ends. -/
theorem parse_cuts (delimiters : Delimiters) (text : Text) :
    (∀ number, (∃ cut, CutAt text number cut) ↔ 1 ≤ number ∧ number ≤ (linesOf text).length) ∧
    (∀ rejection, parse delimiters text = .error rejection →
      (∀ kind, rejection.fault ≠ .unterminated kind) →
      ∀ number cut, CutAt text number cut →
        (rejection.line ≤ number → parse delimiters cut = .error rejection) ∧
        (number < rejection.line → ReachesEnd (parse delimiters cut))) ∧
    (ReachesEnd (parse delimiters text) →
      ∀ number cut, CutAt text number cut → ReachesEnd (parse delimiters cut)) ∧
    (∀ early late left right first second, early ≤ late →
      CutAt text early left → CutAt text late right →
      parse delimiters left = .ok first → parse delimiters right = .ok second →
      first <+: second) := by
  refine ⟨fun number => exists_cutAt_iff, ?_, ?_, ?_⟩
  · intro rejection refused other number cut here
    rw [here.parse_eq]
    exact parseLines_take_of_error refused other here.le
  · intro ends number cut here
    rw [here.parse_eq]
    exact reachesEnd_parseLines_take ends number
  · intro early late left right first second ordered before behind accepted longer
    rw [before.parse_eq] at accepted
    rw [behind.parse_eq] at longer
    exact parseLines_take_le ordered accepted longer

/-- A closing marker too many: cut before it the script is accepted or the run is
left open, and cut behind it the fault is the same with and without the last line. -/
theorem parse_cuts_extra_close :
    parse .standard "<---RUN--->\n<---END--->\n<---END--->\n<---WRITE--->".toList =
      .error ⟨3, .noActiveOperation .close⟩ ∧
    CutAt "<---RUN--->\n<---END--->\n<---END--->\n<---WRITE--->".toList 1 "<---RUN--->".toList ∧
    ReachesEnd (parse .standard "<---RUN--->".toList) ∧
    parse .standard "<---RUN--->\n<---END--->\n<---END--->".toList =
      .error ⟨3, .noActiveOperation .close⟩ := by
  have refused : parse .standard "<---RUN--->\n<---END--->\n<---END--->\n<---WRITE--->".toList =
      .error ⟨3, .noActiveOperation .close⟩ := by
    decide +kernel
  have first : CutAt "<---RUN--->\n<---END--->\n<---END--->\n<---WRITE--->".toList 1
      "<---RUN--->".toList :=
    ⟨Nat.le_refl 1, by decide +kernel⟩
  have third : CutAt "<---RUN--->\n<---END--->\n<---END--->\n<---WRITE--->".toList 3
      "<---RUN--->\n<---END--->\n<---END--->".toList :=
    ⟨by decide, by decide +kernel⟩
  have cuts := (parse_cuts .standard
    "<---RUN--->\n<---END--->\n<---END--->\n<---WRITE--->".toList).2.1 _ refused (fun _ => nofun)
  exact ⟨refused, first, (cuts 1 _ first).2 (by decide), (cuts 3 _ third).1 (by decide)⟩

end ChangeScript

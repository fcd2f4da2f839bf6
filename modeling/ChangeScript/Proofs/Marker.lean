/-
Marker lines that are written and read back.

A whole line is a marker exactly when it is a marker body between the two
delimiters, so a written marker line is read as its name and its attributes
whatever the delimiters are.  What it encloses behind its name is read as the
attributes that it was written for, if their names allow it.
-/

import Mathlib.Data.List.Basic
import ChangeScript.Printer
import ChangeScript.Proofs.Attribute
import ChangeScript.Proofs.Lines

set_option autoImplicit false

namespace ChangeScript

open Text

namespace Marker

theorem isCandidate_iff {delimiters : Delimiters} {line : Text} :
    isCandidate delimiters line = true ↔ delimiters.opening <+: line :=
  List.isPrefixOf_iff_prefix

theorem ofLine?_eq_some_iff {delimiters : Delimiters} {line : Text} {marker : Marker} :
    ofLine? delimiters line = some marker ↔
      ∃ body, line = delimiters.opening ++ body ++ delimiters.closing ∧
        ofBody? body = some marker := by
  constructor
  · intro found
    unfold ofLine? at found
    split at found
    · cases found
    · next rest lead =>
        split at found
        · cases found
        · next body tail =>
            refine ⟨body, ?_, found⟩
            rw [← List.append_eq_of_isPrefixOf?_eq_some lead,
              ← List.append_eq_of_isSuffixOf?_eq_some tail, List.append_assoc]
  · rintro ⟨body, shape, found⟩
    have lead : delimiters.opening.isPrefixOf? line = some (body ++ delimiters.closing) := by
      rw [List.isPrefixOf?_eq_some_iff_append_eq, shape, List.append_assoc]
    have tail : delimiters.closing.isSuffixOf? (body ++ delimiters.closing) = some body :=
      List.isSuffixOf?_eq_some_iff_append_eq.mpr rfl
    unfold ofLine?
    simp only [lead, tail]
    exact found

theorem isCandidate_of_ofLine? {delimiters : Delimiters} {line : Text} {marker : Marker}
    (found : ofLine? delimiters line = some marker) : isCandidate delimiters line = true := by
  obtain ⟨body, shape, _inside⟩ := ofLine?_eq_some_iff.mp found
  rw [isCandidate_iff, shape, List.append_assoc]
  exact List.prefix_append _ _

private theorem arguments_subset_body {body : Text} {marker : Marker}
    (found : ofBody? body = some marker) : marker.arguments ⊆ body := by
  simp only [ofBody?] at found
  split at found
  · cases found
  · split at found
    · cases found
      exact List.nil_subset body
    · split at found
      · cases found
        exact fun _ member => (List.dropWhile_sublist isWordChar).subset
          ((List.dropWhile_sublist isBlank).subset member)
      · cases found

theorem unbroken_of_ofLine? {delimiters : Delimiters} {line : Text} {marker : Marker}
    (found : ofLine? delimiters line = some marker) (unbroken : Unbroken line) :
    Unbroken delimiters.opening ∧ Unbroken delimiters.closing ∧ Unbroken marker.arguments := by
  obtain ⟨body, shape, inside⟩ := ofLine?_eq_some_iff.mp found
  rw [shape] at unbroken
  refine ⟨unbroken.of_subset ?_, unbroken.of_subset ?_, unbroken.of_subset ?_⟩
  · exact fun _ member => List.mem_append_left _ (List.mem_append_left _ member)
  · exact fun _ member => List.mem_append_right _ member
  · exact fun _ member =>
      List.mem_append_left _ (List.mem_append_right _ (arguments_subset_body inside member))

end Marker

namespace Attribute

/-- Well-named attributes whose values fit on one line. -/
structure Printable (entries : List Attribute) : Prop extends WellNamed entries where
  unbroken : ∀ entry ∈ entries, Unbroken entry.value

instance (entries : List Attribute) : Decidable (Printable entries) :=
  decidable_of_iff (WellNamed entries ∧ ∀ entry ∈ entries, Unbroken entry.value)
    ⟨fun ⟨named, unbroken⟩ => ⟨named, unbroken⟩,
      fun printable => ⟨printable.toWellNamed, printable.unbroken⟩⟩

private theorem isBlank_of_endsLine {c : Char} (ends : endsLine c = true) : isBlank c = true := by
  rcases endsLine_eq_true_iff.mp ends with rfl | rfl <;> decide

theorem unbroken_name {name : Text} (plain : ∀ c ∈ name, isNameChar c = true) :
    Unbroken name := by
  intro c member
  cases ends : endsLine c with
  | false => rfl
  | true =>
      have solid := not_isBlank_of_isNameChar (plain c member)
      rw [isBlank_of_endsLine ends] at solid
      cases solid

private theorem unbroken_escape {value : Text} (unbroken : Unbroken value) :
    Unbroken (escape value) := by
  induction value with
  | nil => exact Unbroken.nil
  | cons c rest ih =>
      have plain := unbroken c List.mem_cons_self
      have later : Unbroken (escape rest) := ih (unbroken.of_subset (List.subset_cons_self c rest))
      have next : Unbroken (c :: escape rest) := by
        intro d member
        rcases List.mem_cons.mp member with rfl | inside
        · exact plain
        · exact later d inside
      by_cases special : c = '\\' ∨ c = '"'
      · rw [escape, if_pos special]
        intro d member
        rcases List.mem_cons.mp member with rfl | inside
        · decide
        · exact next d inside
      · rw [escape, if_neg special]
        exact next

theorem unbroken_writeList {entries : List Attribute} (printable : Printable entries) :
    Unbroken (writeList entries) := by
  intro c member
  obtain ⟨entry, present, inside⟩ := List.mem_flatMap.mp member
  have name := unbroken_name (printable.plain entry present)
  have value := unbroken_escape (printable.unbroken entry present)
  have sign : Unbroken "=\"".toList := by decide
  have space : Unbroken [' '] := by decide
  have quote : Unbroken ['"'] := by decide
  exact ((((space.append name).append sign).append value).append quote) c inside

private theorem writeList_eq_append_quote {entries : List Attribute} (present : entries ≠ []) :
    ∃ front, writeList entries = front ++ ['"'] := by
  have shape := List.dropLast_concat_getLast present
  refine ⟨writeList entries.dropLast ++
    (' ' :: (entries.getLast present).name ++ "=\"".toList ++
      escape (entries.getLast present).value), ?_⟩
  conv => lhs; rw [← shape]
  simp [writeList, write]

theorem isArguments_writeList {entries : List Attribute} (printable : Printable entries)
    (present : entries ≠ []) :
    Marker.isArguments ((writeList entries).dropWhile isBlank) = true := by
  have unbroken := unbroken_writeList printable
  obtain ⟨front, shape⟩ := writeList_eq_append_quote present
  have last : ∃ before, (writeList entries).dropWhile isBlank = before ++ ['"'] := by
    rw [shape, List.dropWhile_append, List.dropWhile_cons_of_neg (by decide)]
    split
    · exact ⟨[], rfl⟩
    · exact ⟨front.dropWhile isBlank, rfl⟩
  have noFeed : '\n' ∉ (writeList entries).dropWhile isBlank := by
    intro member
    have ends := unbroken '\n' ((List.dropWhile_sublist isBlank).subset member)
    exact absurd ends (by decide)
  obtain ⟨before, ending⟩ := last
  unfold Marker.isArguments
  rw [Bool.and_eq_true]
  constructor
  · rw [ending, endsSolid, List.getLast?_append]
    rfl
  · rw [Bool.not_eq_true', ← Bool.not_eq_true, List.contains_iff_mem]
    exact noFeed

end Attribute

/-! ### Written markers -/

namespace Keyword

theorem name_ne_nil (keyword : Keyword) : keyword.name ≠ [] := by
  cases keyword with
  | opens kind => cases kind <;> decide
  | upTo => decide
  | replace => decide
  | close => decide

theorem isWordChar_of_mem_name (keyword : Keyword) :
    ∀ c ∈ keyword.name, Marker.isWordChar c = true := by
  rw [← List.all_eq_true]
  cases keyword with
  | opens kind => cases kind <;> decide
  | upTo => decide
  | replace => decide
  | close => decide

theorem unbroken_name (keyword : Keyword) : Unbroken keyword.name := by
  cases keyword with
  | opens kind => cases kind <;> decide
  | upTo => decide
  | replace => decide
  | close => decide

end Keyword

namespace Marker

theorem ofBody?_written (keyword : Keyword) {entries : List Attribute}
    (printable : Attribute.Printable entries) :
    ofBody? (keyword.name ++ Attribute.writeList entries) =
      some ⟨keyword.name, (Attribute.writeList entries).dropWhile isBlank⟩ := by
  have word := keyword.isWordChar_of_mem_name
  cases entries with
  | nil =>
      have taken : (keyword.name ++ []).takeWhile isWordChar = keyword.name := by
        rw [List.takeWhile_append_of_pos word, List.takeWhile_nil, List.append_nil]
      have dropped : (keyword.name ++ []).dropWhile isWordChar = [] := by
        rw [List.dropWhile_append_of_pos word, List.dropWhile_nil]
      change ofBody? (keyword.name ++ []) = some ⟨keyword.name, []⟩
      simp only [ofBody?, taken, dropped, if_neg keyword.name_ne_nil, if_true]
  | cons entry rest =>
      have arguments := Attribute.isArguments_writeList printable (List.cons_ne_nil entry rest)
      have spaced : ∃ behind, Attribute.writeList (entry :: rest) = ' ' :: behind := ⟨_, rfl⟩
      obtain ⟨behind, shape⟩ := spaced
      rw [shape] at arguments ⊢
      have taken : (keyword.name ++ ' ' :: behind).takeWhile isWordChar = keyword.name := by
        rw [List.takeWhile_append_of_pos word, List.takeWhile_cons_of_neg (by decide),
          List.append_nil]
      have dropped : (keyword.name ++ ' ' :: behind).dropWhile isWordChar = ' ' :: behind := by
        rw [List.dropWhile_append_of_pos word, List.dropWhile_cons_of_neg (by decide)]
      have blank : (' ' :: behind).dropWhile isBlank = behind.dropWhile isBlank :=
        List.dropWhile_cons_of_pos (by decide)
      have shorter : (' ' :: behind).dropWhile isBlank ≠ ' ' :: behind := by
        rw [blank]
        intro same
        have bound := (List.dropWhile_sublist isBlank (l := behind)).length_le
        rw [same, List.length_cons] at bound
        omega
      simp only [ofBody?, taken, dropped, if_neg keyword.name_ne_nil]
      rw [if_neg (List.cons_ne_nil _ _), if_pos ⟨shorter, arguments⟩]

/-- A written marker line is read as its keyword and what was written for its
attributes, between any two delimiters. -/
theorem ofLine?_write (delimiters : Delimiters) (keyword : Keyword) {entries : List Attribute}
    (printable : Attribute.Printable entries) :
    ofLine? delimiters (write delimiters keyword.name entries) =
      some ⟨keyword.name, (Attribute.writeList entries).dropWhile isBlank⟩ := by
  rw [ofLine?_eq_some_iff]
  refine ⟨keyword.name ++ Attribute.writeList entries, ?_, ofBody?_written keyword printable⟩
  rw [write, List.append_assoc delimiters.opening]

theorem unbroken_write {delimiters : Delimiters} (opening : Unbroken delimiters.opening)
    (closing : Unbroken delimiters.closing) (keyword : Keyword) {entries : List Attribute}
    (printable : Attribute.Printable entries) :
    Unbroken (write delimiters keyword.name entries) :=
  ((opening.append keyword.unbroken_name).append
    (Attribute.unbroken_writeList printable)).append closing

/-- What a marker that is written for attributes has between its name and the
closing delimiter. -/
def Encloses (delimiters : Delimiters) (name : Text) (entries : List Attribute)
    (between : Text) : Prop :=
  write delimiters name entries = delimiters.opening ++ name ++ between ++ delimiters.closing

theorem encloses_iff {delimiters : Delimiters} {name between : Text} {entries : List Attribute} :
    Encloses delimiters name entries between ↔ Attribute.writeList entries = between := by
  rw [Encloses, write, List.append_left_inj, List.append_right_inj]

end Marker

namespace Attribute

/-- What a written marker encloses is read as the attributes that it was written
for, exactly when these are well named and whatever their values hold.  A list
that was read is well named, so it is read once more from its written form. -/
theorem readList_enclosed {delimiters : Delimiters} {name between : Text}
    {entries : List Attribute} (enclosed : Marker.Encloses delimiters name entries between) :
    (WellNamed entries ↔ readList between = .ok entries) ∧
    ∀ text, readList text = .ok entries →
      WellNamed entries ∧ readList between = .ok entries := by
  obtain rfl := Marker.encloses_iff.mp enclosed
  refine ⟨⟨readList_writeList, wellNamed_of_readList⟩, ?_⟩
  intro text read
  have named := wellNamed_of_readList read
  exact ⟨named, readList_writeList named⟩

/-- A value that is one backslash, and one with the closing delimiter, a line
feed, both quotes, and backslashes in front of a quote and at its end. -/
theorem readList_enclosed_backslashes :
    Marker.Encloses .standard "RUN".toList
      [⟨"a".toList, "\\".toList⟩, ⟨"b".toList, "--->\n'\\\"\\\\".toList⟩]
      " a=\"\\\\\" b=\"--->\n'\\\\\\\"\\\\\\\\\"".toList ∧
    WellNamed [⟨"a".toList, "\\".toList⟩, ⟨"b".toList, "--->\n'\\\"\\\\".toList⟩] ∧
    readList " a=\"\\\\\" b=\"--->\n'\\\\\\\"\\\\\\\\\"".toList =
      .ok [⟨"a".toList, "\\".toList⟩, ⟨"b".toList, "--->\n'\\\"\\\\".toList⟩] := by
  have enclosed : Marker.Encloses .standard "RUN".toList
      [⟨"a".toList, "\\".toList⟩, ⟨"b".toList, "--->\n'\\\"\\\\".toList⟩]
      " a=\"\\\\\" b=\"--->\n'\\\\\\\"\\\\\\\\\"".toList := by
    unfold Marker.Encloses
    decide
  have named : WellNamed
      [⟨"a".toList, "\\".toList⟩, ⟨"b".toList, "--->\n'\\\"\\\\".toList⟩] := by
    decide
  obtain ⟨reads, again⟩ := readList_enclosed enclosed
  have read := reads.mp named
  exact ⟨enclosed, (again _ read).1, read⟩

end Attribute

end ChangeScript

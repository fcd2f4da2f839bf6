/-
Marker lines divided into their parts.

A whole marker line has exactly one division into delimiters, name, blanks and
arguments, also where the delimiters are made of characters that a name or the
blanks could hold.  What has such a division is read to its end, so a line is
never a whole marker and a marker with text behind it.
-/

import ChangeScript.Proofs.Marker

set_option autoImplicit false

namespace ChangeScript

open Text

namespace Marker

/-- A text with a first and a last character that are no blanks. -/
structure Solid (text : Text) : Prop where
  first : ∃ c, text.head? = some c ∧ isBlank c = false
  last : ∃ c, text.getLast? = some c ∧ isBlank c = false

/-- What can stand between the delimiters of a marker, divided. -/
structure Parts (name blanks arguments : Text) : Prop where
  present : name ≠ []
  word : ∀ c ∈ name, isWordChar c = true
  behind : (blanks = [] ∧ arguments = []) ∨
    (blanks ≠ [] ∧ (∀ c ∈ blanks, isBlank c = true) ∧ Solid arguments)

private theorem toNat_of_isWordChar {c : Char} (word : isWordChar c = true) :
    48 ≤ c.toNat ∧ c.toNat ≤ 122 := by
  delta isWordChar Char.isAlphanum Char.isAlpha Char.isUpper Char.isLower Char.isDigit at word
  simp only [Bool.or_eq_true, Bool.and_eq_true, decide_eq_true_eq, ge_iff_le, UInt32.le_iff_toNat_le] at word
  rcases word with ((⟨low, high⟩ | ⟨low, high⟩) | ⟨low, high⟩) | rfl
  · change 65 ≤ c.toNat at low
    change c.toNat ≤ 90 at high
    omega
  · change 97 ≤ c.toNat at low
    change c.toNat ≤ 122 at high
    omega
  · change 48 ≤ c.toNat at low
    change c.toNat ≤ 57 at high
    omega
  · decide

theorem not_isWordChar_of_isBlank {c : Char} (blank : isBlank c = true) : isWordChar c = false := by
  rw [← Bool.not_eq_true]
  intro word
  obtain ⟨low, high⟩ := toNat_of_isWordChar word
  simp only [isBlank, inRanges, blankRanges, List.any_cons, List.any_nil, Bool.or_eq_true,
    Bool.and_eq_true, decide_eq_true_eq, Bool.false_eq_true, or_false] at blank
  omega

theorem endsSolid_eq_true_iff {text : Text} :
    endsSolid text = true ↔ ∃ c, text.getLast? = some c ∧ isBlank c = false := by
  unfold endsSolid
  cases text.getLast? with
  | none => simp
  | some c => simp

theorem isArguments_eq_true_iff {text : Text} :
    isArguments text = true ↔ endsSolid text = true ∧ '\n' ∉ text := by
  rw [isArguments, Bool.and_eq_true, Bool.not_eq_true', ← Bool.not_eq_true, List.contains_iff_mem]

theorem Solid.stops {arguments : Text} (solid : Solid arguments) (behind : Text) :
    Stops isBlank (arguments ++ behind) := by
  obtain ⟨c, head, plain⟩ := solid.first
  obtain ⟨rest, rfl⟩ := List.head?_eq_some_iff.mp head
  exact stops_cons plain (rest ++ behind)

theorem stops_blanks {blanks : Text} (present : blanks ≠ [])
    (blank : ∀ c ∈ blanks, isBlank c = true) (behind : Text) :
    Stops isWordChar (blanks ++ behind) := by
  obtain ⟨c, rest, rfl⟩ := List.exists_cons_of_ne_nil present
  exact stops_cons (not_isWordChar_of_isBlank (blank c List.mem_cons_self)) (rest ++ behind)

theorem ofBody?_of_parts {name blanks arguments : Text} (parts : Parts name blanks arguments)
    (noFeed : '\n' ∉ arguments) :
    ofBody? (name ++ (blanks ++ arguments)) = some ⟨name, arguments⟩ := by
  rcases parts.behind with ⟨rfl, rfl⟩ | ⟨present, blank, solid⟩
  · have taken := takeWhile_append_of_stops parts.word (stops_nil isWordChar)
    have dropped := dropWhile_append_of_stops parts.word (stops_nil isWordChar)
    rw [List.append_nil]
    simp only [ofBody?, taken, dropped, if_neg parts.present, if_true]
  · have stops := stops_blanks present blank arguments
    have taken := takeWhile_append_of_stops parts.word stops
    have dropped := dropWhile_append_of_stops parts.word stops
    have trimmed : (blanks ++ arguments).dropWhile isBlank = arguments := by
      have bare := solid.stops []
      rw [List.append_nil] at bare
      exact dropWhile_append_of_stops blank bare
    have filled : blanks ++ arguments ≠ [] := fun empty =>
      present (List.append_eq_nil_iff.mp empty).1
    have shorter : arguments ≠ blanks ++ arguments := fun same =>
      present (List.self_eq_append_left.mp same)
    have readable : isArguments arguments = true :=
      isArguments_eq_true_iff.mpr ⟨endsSolid_eq_true_iff.mpr solid.last, noFeed⟩
    simp only [ofBody?, taken, dropped, trimmed, if_neg parts.present, if_neg filled]
    rw [if_pos ⟨shorter, readable⟩]

theorem parts_of_ofBody? {body name arguments : Text}
    (found : ofBody? body = some ⟨name, arguments⟩) :
    ∃ blanks, body = name ++ (blanks ++ arguments) ∧ Parts name blanks arguments ∧
      '\n' ∉ arguments := by
  have whole := List.takeWhile_append_dropWhile (p := isWordChar) (l := body)
  have word : ∀ c ∈ body.takeWhile isWordChar, isWordChar c = true :=
    List.all_eq_true.mp List.all_takeWhile
  simp only [ofBody?] at found
  split at found
  · cases found
  · next present =>
      split at found
      · next bare =>
          cases found
          rw [bare] at whole
          exact ⟨[], whole.symm, ⟨present, word, Or.inl ⟨rfl, rfl⟩⟩, List.not_mem_nil⟩
      · split at found
        · next divided =>
            obtain ⟨shorter, readable⟩ := divided
            cases found
            have rest := List.takeWhile_append_dropWhile (p := isBlank)
              (l := body.dropWhile isWordChar)
            obtain ⟨ends, noFeed⟩ := isArguments_eq_true_iff.mp readable
            have last := endsSolid_eq_true_iff.mp ends
            refine ⟨(body.dropWhile isWordChar).takeWhile isBlank, ?_, ⟨present, word, Or.inr
              ⟨?_, List.all_eq_true.mp List.all_takeWhile, ?_, last⟩⟩, noFeed⟩
            · rw [rest, whole]
            · intro empty
              rw [empty, List.nil_append] at rest
              exact shorter rest
            · obtain ⟨c, ending, _plain⟩ := last
              obtain ⟨d, tail, shape⟩ := List.exists_cons_of_ne_nil
                (List.ne_nil_of_mem (List.mem_of_getLast? ending))
              have stops := stops_dropWhile isBlank (body.dropWhile isWordChar)
              rw [shape] at stops ⊢
              exact ⟨d, rfl, stops d rfl⟩
        · cases found

/-! ### Markers at the front -/

theorem eq_of_longestArguments? {closing text arguments behind : Text}
    (found : longestArguments? closing text = some (arguments, behind)) :
    text = arguments ++ (closing ++ behind) ∧ arguments ≠ [] := by
  induction text generalizing arguments behind with
  | nil => cases found
  | cons c rest ih =>
      unfold longestArguments? at found
      split at found
      · cases found
      · split at found
        · next longer inside =>
            cases found
            rw [(ih inside).1, List.cons_append]
            exact ⟨rfl, List.cons_ne_nil _ _⟩
        · split at found
          · cases found
          · obtain ⟨tail, closed, same⟩ := Option.map_eq_some_iff.mp found
            cases same
            rw [← List.append_eq_of_isPrefixOf?_eq_some closed]
            exact ⟨rfl, List.cons_ne_nil _ _⟩

theorem eq_of_longestName? {closing text name behind : Text}
    (found : longestName? closing text = some (name, behind)) :
    text = name ++ (closing ++ behind) ∧ name ≠ [] := by
  induction text generalizing name behind with
  | nil => cases found
  | cons c rest ih =>
      unfold longestName? at found
      split at found
      · split at found
        · next longer inside =>
            cases found
            rw [(ih inside).1, List.cons_append]
            exact ⟨rfl, List.cons_ne_nil _ _⟩
        · obtain ⟨tail, closed, same⟩ := Option.map_eq_some_iff.mp found
          cases same
          rw [← List.append_eq_of_isPrefixOf?_eq_some closed]
          exact ⟨rfl, List.cons_ne_nil _ _⟩
      · cases found

private theorem eq_none_of_length_le {closing text : Text} {found : Option (Text × Text)}
    (shape : ∀ front behind, found = some (front, behind) →
      text = front ++ (closing ++ behind) ∧ front ≠ [])
    (short : text.length ≤ closing.length) : found = none := by
  cases found with
  | none => rfl
  | some pair =>
      obtain ⟨whole, present⟩ := shape pair.1 pair.2 rfl
      have positive := List.length_pos_iff.mpr present
      rw [whole, List.length_append, List.length_append] at short
      omega

theorem longestArguments?_eq_none {closing text : Text} (short : text.length ≤ closing.length) :
    longestArguments? closing text = none :=
  eq_none_of_length_le (fun _ _ found => eq_of_longestArguments? found) short

theorem longestName?_eq_none {closing text : Text} (short : text.length ≤ closing.length) :
    longestName? closing text = none :=
  eq_none_of_length_le (fun _ _ found => eq_of_longestName? found) short

private theorem isPrefixOf?_self (text : Text) : text.isPrefixOf? text = some [] :=
  List.isPrefixOf?_eq_some_iff_append_eq.mpr (List.append_nil text)

theorem longestArguments?_append {closing arguments : Text} (ends : endsSolid arguments = true)
    (noFeed : '\n' ∉ arguments) :
    longestArguments? closing (arguments ++ closing) = some (arguments, []) := by
  induction arguments with
  | nil => cases ends
  | cons c rest ih =>
      have plain : c ≠ '\n' := fun same => noFeed (by rw [same]; exact List.mem_cons_self)
      rw [List.cons_append, longestArguments?, if_neg plain]
      cases rest with
      | nil =>
          obtain ⟨last, same, solid⟩ := endsSolid_eq_true_iff.mp ends
          cases same
          change isBlank c = false at solid
          simp only [List.nil_append, longestArguments?_eq_none (Nat.le_refl _), solid,
            Bool.false_eq_true, if_false, isPrefixOf?_self, Option.map_some]
      | cons d rest =>
          have longer := ih ends (fun member => noFeed (List.mem_cons_of_mem c member))
          simp only [longer]

theorem longestName?_append {closing name : Text} (present : name ≠ [])
    (word : ∀ c ∈ name, isWordChar c = true) :
    longestName? closing (name ++ closing) = some (name, []) := by
  induction name with
  | nil => exact absurd rfl present
  | cons c rest ih =>
      obtain ⟨first, later⟩ := List.forall_mem_cons.mp word
      rw [List.cons_append, longestName?, if_pos first]
      cases rest with
      | nil =>
          simp only [List.nil_append, longestName?_eq_none (Nat.le_refl _), isPrefixOf?_self,
            Option.map_some]
      | cons d rest => simp only [ih (List.cons_ne_nil d rest) later]

/-- What is divided into the parts of a marker and the closing text is read to its
end.  A longer name or longer arguments would leave too little for the closing
text. -/
theorem ofFront?_of_parts {name blanks arguments : Text} (parts : Parts name blanks arguments)
    (noFeed : '\n' ∉ arguments) (closing : Text) :
    ofFront? closing (name ++ (blanks ++ arguments) ++ closing) =
      some (⟨name, arguments⟩, []) := by
  rw [List.append_assoc, List.append_assoc]
  rcases parts.behind with ⟨rfl, rfl⟩ | ⟨present, blank, solid⟩
  · rw [List.nil_append, List.nil_append]
    have after : ((name ++ closing).dropWhile isWordChar).length ≤ closing.length := by
      rw [List.dropWhile_append_of_pos parts.word]
      exact (List.dropWhile_sublist isWordChar).length_le
    have trimmed := (List.dropWhile_sublist isBlank
      (l := (name ++ closing).dropWhile isWordChar)).length_le
    have nothing := longestArguments?_eq_none (Nat.le_trans trimmed after)
    simp only [ofFront?, nothing, ite_self, longestName?_append parts.present parts.word,
      Option.map_some]
  · have stops := stops_blanks present blank (arguments ++ closing)
    have taken := takeWhile_append_of_stops parts.word stops
    have dropped := dropWhile_append_of_stops parts.word stops
    have trimmed := dropWhile_append_of_stops blank (solid.stops closing)
    have shorter : arguments ++ closing ≠ blanks ++ (arguments ++ closing) := fun same =>
      present (List.self_eq_append_left.mp same)
    have ends := endsSolid_eq_true_iff.mpr solid.last
    have longest := @longestArguments?_append closing _ ends noFeed
    simp only [ofFront?, taken, dropped, trimmed]
    rw [if_pos ⟨parts.present, shorter⟩, longest]

theorem leading?_eq_none_of_ofLine? {delimiters : Delimiters} {line : Text} {marker : Marker}
    (found : ofLine? delimiters line = some marker) : leading? delimiters line = none := by
  obtain ⟨body, shape, inside⟩ := ofLine?_eq_some_iff.mp found
  obtain ⟨blanks, rfl, parts, noFeed⟩ := parts_of_ofBody? inside
  rw [List.append_assoc] at shape
  have front := ofFront?_of_parts parts noFeed delimiters.closing
  simp only [leading?, List.isPrefixOf?_eq_some_iff_append_eq.mpr shape.symm, front, if_true]

/-- A line divided into the delimiters and the parts of a marker between them. -/
structure LineParts (delimiters : Delimiters) (line name blanks arguments : Text) : Prop
    extends Parts name blanks arguments where
  line_eq : line = delimiters.opening ++ name ++ blanks ++ arguments ++ delimiters.closing

theorem ofLine?_of_lineParts {delimiters : Delimiters} {line name blanks arguments : Text}
    (noFeed : '\n' ∉ line) (divided : LineParts delimiters line name blanks arguments) :
    ofLine? delimiters line = some ⟨name, arguments⟩ := by
  have inner : '\n' ∉ arguments := by
    intro feed
    apply noFeed
    rw [divided.line_eq]
    exact List.mem_append_left _ (List.mem_append_right _ feed)
  have read := ofBody?_of_parts divided.toParts inner
  refine ofLine?_eq_some_iff.mpr ⟨_, ?_, read⟩
  rw [divided.line_eq]
  simp only [List.append_assoc]

theorem lineParts_of_ofLine? {delimiters : Delimiters} {line name arguments : Text}
    (found : ofLine? delimiters line = some ⟨name, arguments⟩) :
    ∃ blanks, LineParts delimiters line name blanks arguments := by
  obtain ⟨body, shape, inside⟩ := ofLine?_eq_some_iff.mp found
  obtain ⟨blanks, rfl, parts, _noFeed⟩ := parts_of_ofBody? inside
  refine ⟨blanks, parts, ?_⟩
  rw [shape]
  simp only [List.append_assoc]

theorem LineParts.unique {delimiters : Delimiters}
    {line name blanks arguments name' blanks' arguments' : Text} (noFeed : '\n' ∉ line)
    (divided : LineParts delimiters line name blanks arguments)
    (other : LineParts delimiters line name' blanks' arguments') :
    name = name' ∧ blanks = blanks' ∧ arguments = arguments' := by
  have read := ofLine?_of_lineParts noFeed divided
  rw [ofLine?_of_lineParts noFeed other] at read
  cases read
  have whole := divided.line_eq.symm.trans other.line_eq
  have front := List.append_cancel_right (List.append_cancel_right whole)
  exact ⟨rfl, List.append_cancel_left front, rfl⟩

end Marker

end ChangeScript

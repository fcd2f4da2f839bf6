/-
What a line is in a phase, said of its beginnings.

A line that begins like a marker and is none as a whole is read at its front once,
with the longest arguments first.  If the closing delimiter cannot go on with a
name, all whole markers that a line begins with have the same name, so this one
reading decides about all of them: the line is a fault for the text behind a marker
exactly when some beginning of it is a whole marker that leads on.
-/

import ChangeScript.Proofs.Step
import ChangeScript.Proofs.Trials

set_option autoImplicit false

namespace ChangeScript

open Text

namespace Marker

variable {delimiters : Delimiters}

/-- The whole line can be divided into the delimiters and the parts of a marker. -/
def Whole (delimiters : Delimiters) (line : Text) (marker : Marker) : Prop :=
  ∃ blanks, LineParts delimiters line marker.name blanks marker.arguments

/-- The line goes on behind a whole marker of the given name. -/
def GoesOn (delimiters : Delimiters) (line name : Text) : Prop :=
  ∃ front behind arguments, line = front ++ behind ∧ behind ≠ [] ∧
    Whole delimiters front ⟨name, arguments⟩

theorem whole_iff_ofLine? {line : Text} (noFeed : '\n' ∉ line) {marker : Marker} :
    Whole delimiters line marker ↔ ofLine? delimiters line = some marker := by
  constructor
  · rintro ⟨blanks, divided⟩
    exact ofLine?_of_lineParts noFeed divided
  · exact lineParts_of_ofLine?

theorem takeWhile_of_parts {closing name blanks arguments : Text} (present : closing ≠ [])
    (plain : Stops isWordChar closing) (parts : Parts name blanks arguments) (behind : Text) :
    (name ++ (blanks ++ arguments) ++ (closing ++ behind)).takeWhile isWordChar = name := by
  obtain ⟨c, rest, rfl⟩ := List.exists_cons_of_ne_nil present
  have stops : Stops isWordChar (blanks ++ arguments ++ (c :: rest ++ behind)) := by
    rcases parts.behind with ⟨rfl, rfl⟩ | ⟨spaced, blank, _solid⟩
    · exact stops_cons (plain c rfl) (rest ++ behind)
    · rw [List.append_assoc]
      exact stops_blanks spaced blank _
  rw [List.append_assoc]
  exact takeWhile_append_of_stops parts.word stops

theorem isSome_longestArguments? {closing arguments : Text} (ends : endsSolid arguments = true)
    (noFeed : '\n' ∉ arguments) (behind : Text) :
    (longestArguments? closing (arguments ++ (closing ++ behind))).isSome = true := by
  induction arguments with
  | nil => cases ends
  | cons c rest ih =>
      have plain : c ≠ '\n' := fun same => noFeed (by rw [same]; exact List.mem_cons_self)
      rw [List.cons_append, longestArguments?, if_neg plain]
      cases longer : longestArguments? closing (rest ++ (closing ++ behind)) with
      | some found => rfl
      | none =>
          cases rest with
          | cons d rest =>
              have later := ih ends fun member => noFeed (List.mem_cons_of_mem c member)
              rw [longer] at later
              cases later
          | nil =>
              obtain ⟨last, same, solid⟩ := endsSolid_eq_true_iff.mp ends
              cases same
              change isBlank c = false at solid
              simp only [List.nil_append, solid, Bool.false_eq_true, if_false,
                List.isPrefixOf?_eq_some_iff_append_eq.mpr rfl, Option.map_some,
                Option.isSome_some]

theorem isSome_longestName? {closing name : Text} (present : name ≠ [])
    (word : ∀ c ∈ name, isWordChar c = true) (behind : Text) :
    (longestName? closing (name ++ (closing ++ behind))).isSome = true := by
  induction name with
  | nil => exact absurd rfl present
  | cons c rest ih =>
      obtain ⟨first, later⟩ := List.forall_mem_cons.mp word
      rw [List.cons_append, longestName?, if_pos first]
      cases longer : longestName? closing (rest ++ (closing ++ behind)) with
      | some found => rfl
      | none =>
          cases rest with
          | cons d rest =>
              have inside := ih (List.cons_ne_nil d rest) later
              rw [longer] at inside
              cases inside
          | nil =>
              simp only [List.nil_append, List.isPrefixOf?_eq_some_iff_append_eq.mpr rfl,
                Option.map_some, Option.isSome_some]

theorem isSome_ofFront? {closing name blanks arguments : Text}
    (parts : Parts name blanks arguments) (noFeed : '\n' ∉ arguments) (behind : Text) :
    (ofFront? closing (name ++ (blanks ++ arguments) ++ (closing ++ behind))).isSome = true := by
  rw [List.append_assoc, List.append_assoc]
  rcases parts.behind with ⟨rfl, rfl⟩ | ⟨present, blank, solid⟩
  · simp only [ofFront?, List.nil_append]
    split
    · rfl
    · rw [Option.isSome_map]
      exact isSome_longestName? parts.present parts.word behind
  · have stops := stops_blanks present blank (arguments ++ (closing ++ behind))
    have taken := takeWhile_append_of_stops parts.word stops
    have dropped := dropWhile_append_of_stops parts.word stops
    have trimmed := dropWhile_append_of_stops blank (solid.stops (closing ++ behind))
    have shorter :
        arguments ++ (closing ++ behind) ≠ blanks ++ (arguments ++ (closing ++ behind)) :=
      fun same => present (List.self_eq_append_left.mp same)
    have ends := endsSolid_eq_true_iff.mpr solid.last
    obtain ⟨found, longest⟩ := Option.isSome_iff_exists.mp
      (@isSome_longestArguments? closing arguments ends noFeed behind)
    simp only [ofFront?, taken, dropped, trimmed]
    rw [if_pos ⟨parts.present, shorter⟩, longest]
    rfl

theorem whole_of_ofFront? {rest behind : Text} {marker : Marker}
    (found : ofFront? delimiters.closing rest = some (marker, behind)) :
    ∃ front arguments, delimiters.opening ++ rest = front ++ behind ∧
      Whole delimiters front ⟨marker.name, arguments⟩ := by
  rw [ofFront?_eq_head?_trials] at found
  obtain ⟨body, other, shape, inside, named⟩ :=
    body_of_mem_trials (List.mem_of_mem_head? found)
  refine ⟨delimiters.opening ++ body ++ delimiters.closing, other.arguments, ?_, ?_⟩
  · rw [shape]
    simp only [List.append_assoc]
  · rw [← named]
    exact lineParts_of_ofLine? (ofLine?_eq_some_iff.mpr ⟨body, rfl, inside⟩)

theorem goesOn_of_leading? {line : Text} {found : Marker × Text}
    (leads : leading? delimiters line = some found) : GoesOn delimiters line found.1.name := by
  unfold leading? at leads
  split at leads
  · cases leads
  · next rest lead =>
      split at leads
      · cases leads
      · next nearest read =>
          split at leads
          · cases leads
          · next more =>
              cases leads
              obtain ⟨front, arguments, shape, whole⟩ := whole_of_ofFront? read
              exact ⟨front, found.2, arguments,
                (List.append_eq_of_isPrefixOf?_eq_some lead).symm.trans shape, more, whole⟩

/-- The reading at the front has the name of every whole marker that the line goes
on behind, unless the line is itself a whole marker. -/
theorem leading?_of_goesOn {line name : Text} (present : delimiters.closing ≠ [])
    (plain : Stops isWordChar delimiters.closing) (noFeed : '\n' ∉ line)
    (notWhole : ∀ marker, ¬Whole delimiters line marker) (goesOn : GoesOn delimiters line name) :
    ∃ found, leading? delimiters line = some found ∧ found.1.name = name := by
  obtain ⟨front, behind, arguments, rfl, _more, blanks, divided⟩ := goesOn
  have inner : '\n' ∉ arguments := by
    intro feed
    apply noFeed
    rw [divided.line_eq]
    exact List.mem_append_left _ (List.mem_append_left _ (List.mem_append_right _ feed))
  have shape : front ++ behind = delimiters.opening ++
      (name ++ (blanks ++ arguments) ++ (delimiters.closing ++ behind)) := by
    rw [divided.line_eq]
    simp only [List.append_assoc]
  obtain ⟨⟨marker, left⟩, read⟩ := Option.isSome_iff_exists.mp
    (@isSome_ofFront? delimiters.closing _ _ _ divided.toParts inner behind)
  obtain ⟨other, otherArguments, same, otherBlanks, otherDivided⟩ := whole_of_ofFront? read
  rw [← shape] at same
  refine ⟨(marker, left), ?_, ?_⟩
  · have more : left ≠ [] := by
      intro empty
      rw [empty, List.append_nil] at same
      rw [← same] at otherDivided
      exact notWhole _ ⟨otherBlanks, otherDivided⟩
    rw [leading?, List.isPrefixOf?_eq_some_iff_append_eq.mpr shape.symm]
    simp only [read, if_neg more]
  · have taken := takeWhile_of_parts present plain divided.toParts behind
    have otherTaken := takeWhile_of_parts present plain otherDivided.toParts left
    rw [otherDivided.line_eq, shape] at same
    simp only [List.append_assoc, List.append_cancel_left_eq] at same taken otherTaken
    rw [← taken, ← otherTaken, same]

end Marker

/-! ### Classes of lines -/

namespace LineClass

variable {delimiters : Delimiters} {phase : Phase} {line : Text}

def Trails (delimiters : Delimiters) (phase : Phase) (line : Text) : Prop :=
  ∃ name, Marker.GoesOn delimiters line name ∧ phase.accepts name = true

/-- What a line is in a phase.  The rules speak of the line and its beginnings as
whole markers, and of no order in which they are tried. -/
inductive Classified (delimiters : Delimiters) (phase : Phase) (line : Text) :
    Except Fault LineClass → Prop
  | noise (outside : ¬delimiters.opening <+: line) :
      Classified delimiters phase line (.ok .content)
  | literal {marker : Marker} (whole : Marker.Whole delimiters line marker)
      (collects : phase.collects = true)
      (unknown : ∀ keyword : Keyword, marker.name ≠ keyword.name) :
      Classified delimiters phase line (.ok .content)
  | marker {marker : Marker} (whole : Marker.Whole delimiters line marker)
      (meant : phase.collects = true → ∃ keyword : Keyword, marker.name = keyword.name) :
      Classified delimiters phase line (.ok (.marker marker))
  | trailing (notWhole : ∀ marker, ¬Marker.Whole delimiters line marker)
      (trails : Trails delimiters phase line) :
      Classified delimiters phase line (.error .contentOnMarkerLine)
  | fragment (begins : delimiters.opening <+: line)
      (notWhole : ∀ marker, ¬Marker.Whole delimiters line marker)
      (apart : ¬Trails delimiters phase line) (collects : phase.collects = true) :
      Classified delimiters phase line (.ok .content)
  | malformed (begins : delimiters.opening <+: line)
      (notWhole : ∀ marker, ¬Marker.Whole delimiters line marker)
      (apart : ¬Trails delimiters phase line) (drops : phase.collects = false) :
      Classified delimiters phase line (.error .malformedMarker)

theorem begins_of_trails (trails : Trails delimiters phase line) : delimiters.opening <+: line := by
  obtain ⟨name, ⟨front, behind, arguments, rfl, _more, blanks, divided⟩, _accepted⟩ := trails
  rw [divided.line_eq]
  simp only [List.append_assoc]
  exact List.prefix_append _ _

theorem ofLine_of_ofLine? {marker : Marker} (found : Marker.ofLine? delimiters line = some marker) :
    LineClass.ofLine delimiters phase line =
      if phase.collects && (Keyword.ofName? marker.name).isNone then .ok .content
      else .ok (.marker marker) := by
  rw [LineClass.ofLine, if_pos (Marker.isCandidate_of_ofLine? found), found]

theorem ofLine_of_fragment (begins : delimiters.opening <+: line)
    (missing : Marker.ofLine? delimiters line = none) :
    LineClass.ofLine delimiters phase line = ofFragment delimiters phase line := by
  rw [LineClass.ofLine, if_pos (Marker.isCandidate_iff.mpr begins), missing]

theorem ofFragment_of_trails (present : delimiters.closing ≠ [])
    (plain : Stops Marker.isWordChar delimiters.closing) (noFeed : '\n' ∉ line)
    (notWhole : ∀ marker, ¬Marker.Whole delimiters line marker)
    (trails : Trails delimiters phase line) :
    ofFragment delimiters phase line = .error .contentOnMarkerLine := by
  obtain ⟨name, goesOn, accepted⟩ := trails
  obtain ⟨found, leads, rfl⟩ := Marker.leading?_of_goesOn present plain noFeed notWhole goesOn
  simp only [ofFragment, leads, accepted, if_true]

theorem ofFragment_of_not_trails (apart : ¬Trails delimiters phase line) :
    ofFragment delimiters phase line =
      if phase.collects then .ok .content else .error .malformedMarker := by
  cases leads : Marker.leading? delimiters line with
  | none => simp only [ofFragment, leads]
  | some found =>
      have refused : ¬phase.accepts found.1.name = true := fun accepted =>
        apart ⟨_, Marker.goesOn_of_leading? leads, accepted⟩
      simp only [ofFragment, leads, if_neg refused]

private theorem ofLine_of_classified (present : delimiters.closing ≠ [])
    (plain : Stops Marker.isWordChar delimiters.closing) (noFeed : '\n' ∉ line)
    {result : Except Fault LineClass} (classified : Classified delimiters phase line result) :
    LineClass.ofLine delimiters phase line = result := by
  have fragment (begins : delimiters.opening <+: line)
      (notWhole : ∀ marker, ¬Marker.Whole delimiters line marker) :
      LineClass.ofLine delimiters phase line = ofFragment delimiters phase line := by
    apply ofLine_of_fragment begins
    cases found : Marker.ofLine? delimiters line with
    | none => rfl
    | some marker => exact absurd ((Marker.whole_iff_ofLine? noFeed).mpr found) (notWhole marker)
  cases classified with
  | noise outside =>
      rw [← Marker.isCandidate_iff] at outside
      rw [LineClass.ofLine, if_neg outside]
  | literal whole collects unknown =>
      rw [ofLine_of_ofLine? ((Marker.whole_iff_ofLine? noFeed).mp whole), collects,
        Keyword.ofName?_eq_none_iff.mpr unknown]
      rfl
  | marker whole meant =>
      rw [ofLine_of_ofLine? ((Marker.whole_iff_ofLine? noFeed).mp whole)]
      cases collects : phase.collects with
      | false => rfl
      | true =>
          obtain ⟨keyword, named⟩ := meant collects
          rw [Keyword.ofName?_eq_some_iff.mpr named]
          rfl
  | trailing notWhole trails =>
      rw [fragment (begins_of_trails trails) notWhole]
      exact ofFragment_of_trails present plain noFeed notWhole trails
  | fragment begins notWhole apart collects =>
      rw [fragment begins notWhole, ofFragment_of_not_trails apart, if_pos collects]
  | malformed begins notWhole apart drops =>
      rw [fragment begins notWhole, ofFragment_of_not_trails apart, drops]
      rfl

private theorem exists_classified (delimiters : Delimiters) (phase : Phase) (line : Text) :
    ∃ result, Classified delimiters phase line result := by
  by_cases begins : delimiters.opening <+: line
  · by_cases whole : ∃ marker, Marker.Whole delimiters line marker
    · obtain ⟨marker, divided⟩ := whole
      by_cases unknown : phase.collects = true ∧ ∀ keyword : Keyword, marker.name ≠ keyword.name
      · exact ⟨_, .literal divided unknown.1 unknown.2⟩
      · refine ⟨_, .marker divided fun collects => Classical.byContradiction fun nameless => ?_⟩
        exact unknown ⟨collects, fun keyword same => nameless ⟨keyword, same⟩⟩
    · have notWhole := not_exists.mp whole
      by_cases trails : Trails delimiters phase line
      · exact ⟨_, .trailing notWhole trails⟩
      · cases collects : phase.collects with
        | true => exact ⟨_, .fragment begins notWhole trails collects⟩
        | false => exact ⟨_, .malformed begins notWhole trails collects⟩
  · exact ⟨_, .noise begins⟩

/-- A line is classified as the rules say, whatever the opening delimiter is, when
the closing delimiter is not empty and does not begin like the rest of a name. -/
theorem ofLine_eq_iff_classified (present : delimiters.closing ≠ [])
    (plain : Stops Marker.isWordChar delimiters.closing) (noFeed : '\n' ∉ line)
    (phase : Phase) (result : Except Fault LineClass) :
    LineClass.ofLine delimiters phase line = result ↔ Classified delimiters phase line result := by
  constructor
  · rintro rfl
    obtain ⟨result, classified⟩ := exists_classified delimiters phase line
    rw [ofLine_of_classified present plain noFeed classified]
    exact classified
  · exact ofLine_of_classified present plain noFeed

/-- A line that goes on behind two whole markers, one of them with a closing
delimiter in its arguments.  The reading at the front finds the longer one, and the
rule needs the shorter one only.  Where `END` does not lead on, the line is kept. -/
theorem ofLine_eq_iff_classified_closed_twice :
    Marker.Whole Delimiters.standard "<---END a--->".toList ⟨"END".toList, "a".toList⟩ ∧
    Marker.leading? Delimiters.standard "<---END a--->b--->c".toList =
      some (⟨"END".toList, "a--->b".toList⟩, "c".toList) ∧
    LineClass.ofLine Delimiters.standard .write "<---END a--->b--->c".toList =
      .error .contentOnMarkerLine ∧
    Classified Delimiters.standard .searchTo "<---END a--->b--->c".toList (.ok .content) := by
  have present : Delimiters.standard.closing ≠ [] := List.cons_ne_nil _ _
  have plain : Stops Marker.isWordChar Delimiters.standard.closing := stops_cons (by decide) _
  have noFeed : '\n' ∉ "<---END a--->b--->c".toList := by decide
  have shorter : Marker.Whole Delimiters.standard "<---END a--->".toList
      ⟨"END".toList, "a".toList⟩ :=
    (Marker.whole_iff_ofLine? (by decide)).mpr (by decide)
  have notWhole : ∀ marker,
      ¬Marker.Whole Delimiters.standard "<---END a--->b--->c".toList marker := by
    intro marker whole
    have found := (Marker.whole_iff_ofLine? noFeed).mp whole
    have missing : Marker.ofLine? Delimiters.standard "<---END a--->b--->c".toList = none := by
      decide
    rw [missing] at found
    cases found
  have trails : Trails Delimiters.standard .write "<---END a--->b--->c".toList :=
    ⟨_, ⟨_, "b--->c".toList, _, rfl, by decide, shorter⟩, by decide⟩
  refine ⟨shorter, by decide, ?_, ?_⟩
  · exact (ofLine_eq_iff_classified present plain noFeed _ _).mpr (.trailing notWhole trails)
  · exact (ofLine_eq_iff_classified present plain noFeed _ _).mp (by rfl)

/-- Where a name can go on into the closing delimiter, the longest name hides a
shorter one that leads on. -/
example :
    Marker.ofLine? ⟨['<'], ['D']⟩ "<ENDD".toList = some ⟨"END".toList, []⟩ ∧
    Marker.leading? ⟨['<'], ['D']⟩ "<ENDDD.".toList = some (⟨"ENDD".toList, []⟩, ['.']) ∧
    LineClass.ofLine ⟨['<'], ['D']⟩ .write "<ENDDD.".toList = .ok .content :=
  ⟨by decide, by decide, rfl⟩

end LineClass

end ChangeScript

/-
Markers as a matcher finds them.

A matcher tries the longest name first, arguments before none, and the longest
blanks and arguments first, and goes back to the next choice when the rest does
not fit.  All its trials are listed here in this order.  A line is read as a whole
marker when some trial takes all of it, and the first one that does is the only
division of the line.  A marker with text behind it is the first trial of all.
-/

import ChangeScript.Proofs.Pattern

set_option autoImplicit false

namespace ChangeScript

open Text

namespace Marker

def lengthen (c : Char) (way : Text × Text) : Text × Text := (c :: way.1, way.2)

/-- The ways to take a run of characters of a class off the front of a text, each
with what follows.  Longer runs come first, and the last one is empty. -/
def runs (good : Char → Bool) : Text → List (Text × Text)
  | [] => [([], [])]
  | c :: rest =>
      if good c then (runs good rest).map (lengthen c) ++ [([], c :: rest)] else [([], c :: rest)]

def someRuns (good : Char → Bool) (text : Text) : List (Text × Text) :=
  (runs good text).filter fun way => !way.1.isEmpty

def argumentRuns (text : Text) : List (Text × Text) :=
  (runs (· ≠ '\n') text).flatMap fun way =>
    match way.2 with
    | [] => []
    | c :: rest => if isBlank c then [] else [(way.1 ++ [c], rest)]

def close? (closing : Text) (way : Text × Text) : Option (Text × Text) :=
  (closing.isPrefixOf? way.2).map fun behind => (way.1, behind)

/-- The ways to read a marker at the front of what follows an opening delimiter, in
the order in which a matcher tries them: a name, then blanks and arguments or
neither, then the closing delimiter. -/
def trials (closing rest : Text) : List (Marker × Text) :=
  (someRuns isWordChar rest).flatMap fun name =>
    ((someRuns isBlank name.2).flatMap fun blanks =>
      (argumentRuns blanks.2).flatMap fun arguments =>
        (close? closing arguments).toList.map fun found => (⟨name.1, found.1⟩, found.2)) ++
    (close? closing name).toList.map fun found => (⟨found.1, []⟩, found.2)

theorem someRuns_of_stops {good : Char → Bool} {text : Text} (stops : Stops good text) :
    someRuns good text = [] := by
  cases text with
  | nil => rfl
  | cons c rest =>
      rw [someRuns, runs, if_neg (Bool.eq_false_iff.mp (stops c rfl))]
      rfl

theorem someRuns_cons {good : Char → Bool} {c : Char} (inside : good c = true) (rest : Text) :
    someRuns good (c :: rest) = (runs good rest).map (lengthen c) := by
  have kept : ((runs good rest).map (lengthen c)).filter (fun way => !way.1.isEmpty) =
      (runs good rest).map (lengthen c) := by
    rw [List.filter_eq_self]
    intro way member
    obtain ⟨shorter, _present, rfl⟩ := List.mem_map.mp member
    rfl
  rw [someRuns, runs, if_pos inside, List.filter_append, kept]
  exact List.append_nil _

theorem argumentRuns_cons (c : Char) (rest : Text) :
    argumentRuns (c :: rest) =
      if c = '\n' then []
      else (argumentRuns rest).map (lengthen c) ++ if isBlank c then [] else [([c], rest)] := by
  by_cases feed : c = '\n'
  · subst feed
    rfl
  · rw [if_neg feed, argumentRuns, runs, if_pos (decide_eq_true feed), List.flatMap_append,
      List.flatMap_singleton, List.flatMap_map, argumentRuns, List.map_flatMap]
    refine congrArg (· ++ _) (congrArg (List.flatMap · _) (funext fun way => ?_))
    obtain ⟨front, behind⟩ := way
    cases behind with
    | nil => rfl
    | cons d behind => by_cases blank : isBlank d = true <;> simp [lengthen, blank]

/-! ### First trials -/

theorem findSome?_map_lengthen (closing : Text) (c : Char) (ways : List (Text × Text)) :
    (ways.map (lengthen c)).findSome? (close? closing) =
      (ways.findSome? (close? closing)).map (lengthen c) := by
  rw [List.map_findSome?, List.findSome?_map]
  refine congrArg (List.findSome? · _) (funext fun way => ?_)
  simp only [Function.comp, close?, Option.map_map]
  rfl

/-- The first arguments tried that the closing text follows are the longest. -/
theorem findSome?_argumentRuns (closing text : Text) :
    (argumentRuns text).findSome? (close? closing) = longestArguments? closing text := by
  induction text with
  | nil => rfl
  | cons c rest ih =>
      rw [argumentRuns_cons, longestArguments?]
      by_cases feed : c = '\n'
      · rw [if_pos feed, if_pos feed]
        rfl
      · rw [if_neg feed, if_neg feed, List.findSome?_append, findSome?_map_lengthen, ih]
        cases longestArguments? closing rest with
        | some found => rfl
        | none =>
            by_cases blank : isBlank c = true
            · simp [blank]
            · simp [blank, close?]

theorem findSome?_runs_isWordChar (closing rest : Text) :
    (runs isWordChar rest).findSome? (close? closing) =
      (longestName? closing rest).or (close? closing ([], rest)) := by
  induction rest with
  | nil => rw [runs, List.findSome?_singleton, longestName?, Option.none_or]
  | cons c rest ih =>
      rw [runs, longestName?]
      by_cases word : isWordChar c = true
      · rw [if_pos word, if_pos word, List.findSome?_append, findSome?_map_lengthen, ih,
          List.findSome?_singleton]
        cases longestName? closing rest with
        | some found => rfl
        | none => simp only [Option.none_or, close?, Option.map_map]; rfl
      · rw [if_neg word, if_neg word, List.findSome?_singleton, Option.none_or]

/-- Fewer blanks before them do not help arguments that more blanks leave open. -/
theorem longestArguments?_eq_none_of_dropWhile {closing text : Text}
    (nothing : longestArguments? closing (text.dropWhile isBlank) = none) :
    longestArguments? closing text = none := by
  induction text with
  | nil => rfl
  | cons c rest ih =>
      by_cases blank : isBlank c = true
      · rw [List.dropWhile_cons_of_pos blank] at nothing
        simp only [longestArguments?, ih nothing, blank, if_true, ite_self]
      · rw [List.dropWhile_cons_of_neg blank] at nothing
        exact nothing

theorem findSome?_runs_isBlank (closing text : Text) :
    ((runs isBlank text).findSome? fun way => longestArguments? closing way.2) =
      longestArguments? closing (text.dropWhile isBlank) := by
  induction text with
  | nil => rfl
  | cons c rest ih =>
      by_cases blank : isBlank c = true
      · have longer : (((runs isBlank rest).map (lengthen c)).findSome? fun way =>
            longestArguments? closing way.2) =
              longestArguments? closing (rest.dropWhile isBlank) := by
          rw [List.findSome?_map, ← ih]
          rfl
        rw [runs, if_pos blank, List.findSome?_append, longer, List.dropWhile_cons_of_pos blank]
        cases found : longestArguments? closing (rest.dropWhile isBlank) with
        | some pair => rfl
        | none =>
            have shorter : longestArguments? closing (c :: rest) = none := by
              apply longestArguments?_eq_none_of_dropWhile
              rw [List.dropWhile_cons_of_pos blank, found]
            rw [Option.none_or, List.findSome?_singleton, shorter]
      · rw [runs, if_neg blank, List.findSome?_singleton, List.dropWhile_cons_of_neg blank]

def argumentsBehind? (closing after : Text) : Option (Text × Text) :=
  if after.dropWhile isBlank ≠ after then longestArguments? closing (after.dropWhile isBlank)
  else none

theorem argumentsBehind?_of_stops {after : Text} (stops : Stops isBlank after) (closing : Text) :
    argumentsBehind? closing after = none := by
  rw [argumentsBehind?, if_neg (not_not_intro (dropWhile_of_stops stops))]

theorem findSome?_someRuns_isBlank (closing after : Text) :
    ((someRuns isBlank after).findSome? fun way => longestArguments? closing way.2) =
      argumentsBehind? closing after := by
  cases after with
  | nil => rfl
  | cons c rest =>
      by_cases blank : isBlank c = true
      · have shorter : rest.dropWhile isBlank ≠ c :: rest := by
          intro same
          have bound := (List.dropWhile_sublist isBlank (l := rest)).length_le
          rw [same, List.length_cons] at bound
          omega
        rw [argumentsBehind?, List.dropWhile_cons_of_pos blank, if_pos shorter,
          someRuns_cons blank, List.findSome?_map, ← findSome?_runs_isBlank]
        rfl
      · have stops := stops_cons (Bool.eq_false_iff.mpr blank) rest
        rw [someRuns_of_stops stops, argumentsBehind?_of_stops stops]
        rfl

private theorem head?_flatMap_map {α β γ : Type} (find : α → Option β) (g : β → γ)
    (ways : List α) :
    (ways.flatMap fun way => (find way).toList.map g).head? = (ways.findSome? find).map g := by
  rw [List.head?_flatMap, List.map_findSome?]
  refine congrArg (List.findSome? · _) (funext fun way => ?_)
  simp only [Function.comp]
  cases find way <;> rfl

def markerOf (name : Text) (found : Text × Text) : Marker × Text :=
  (⟨name, found.1⟩, found.2)

def bareMarker (found : Text × Text) : Marker × Text := (⟨found.1, []⟩, found.2)

def firstBehind? (closing : Text) (name : Text × Text) : Option (Marker × Text) :=
  ((argumentsBehind? closing name.2).map (markerOf name.1)).or
    ((close? closing name).map bareMarker)

theorem head?_trials (closing rest : Text) :
    (trials closing rest).head? = (someRuns isWordChar rest).findSome? (firstBehind? closing) := by
  rw [trials, List.head?_flatMap]
  refine congrArg (List.findSome? · _) (funext fun name => ?_)
  have inner (blanks : Text × Text) :
      ((argumentRuns blanks.2).flatMap fun arguments =>
        (close? closing arguments).toList.map (markerOf name.1)).head? =
        (longestArguments? closing blanks.2).map (markerOf name.1) := by
    rw [head?_flatMap_map, findSome?_argumentRuns]
  have outer : ((someRuns isBlank name.2).flatMap fun blanks =>
      (argumentRuns blanks.2).flatMap fun arguments =>
        (close? closing arguments).toList.map (markerOf name.1)).head? =
        (argumentsBehind? closing name.2).map (markerOf name.1) := by
    rw [List.head?_flatMap, funext inner, ← findSome?_someRuns_isBlank, List.map_findSome?]
    rfl
  have bare : ((close? closing name).toList.map bareMarker).head? =
      (close? closing name).map bareMarker := by
    cases close? closing name <;> rfl
  rw [List.head?_append]
  exact congr (congrArg Option.or outer) bare

private def lengthenName (c : Char) (found : Marker × Text) : Marker × Text :=
  ({ found.1 with name := c :: found.1.name }, found.2)

private theorem findSome?_map_firstBehind? (closing : Text) (c : Char)
    (ways : List (Text × Text)) :
    (ways.map (lengthen c)).findSome? (firstBehind? closing) =
      (ways.findSome? (firstBehind? closing)).map (lengthenName c) := by
  rw [List.findSome?_map, List.map_findSome?]
  refine congrArg (List.findSome? · _) (funext fun name => ?_)
  simp only [Function.comp, firstBehind?, close?, lengthen]
  cases argumentsBehind? closing name.2 with
  | some found => rfl
  | none => cases closing.isPrefixOf? name.2 <;> rfl

/-- Only behind the longest name can blanks follow. -/
theorem findSome?_runs_firstBehind? (closing rest : Text) :
    (runs isWordChar rest).findSome? (firstBehind? closing) =
      ((argumentsBehind? closing (rest.dropWhile isWordChar)).map
        (markerOf (rest.takeWhile isWordChar))).or
        (((runs isWordChar rest).findSome? (close? closing)).map bareMarker) := by
  induction rest with
  | nil => rw [runs, List.findSome?_singleton, List.findSome?_singleton]; rfl
  | cons c rest ih =>
      by_cases word : isWordChar c = true
      · have stops : Stops isBlank (c :: rest) := by
          apply stops_cons
          rw [← Bool.not_eq_true]
          intro blank
          rw [not_isWordChar_of_isBlank blank] at word
          cases word
        have shortest : firstBehind? closing ([], c :: rest) =
            (close? closing ([], c :: rest)).map bareMarker := by
          rw [firstBehind?, argumentsBehind?_of_stops stops]
          rfl
        rw [runs, if_pos word, List.findSome?_append, List.findSome?_append,
          findSome?_map_firstBehind?, ih, findSome?_map_lengthen, List.findSome?_singleton,
          List.findSome?_singleton, shortest, List.dropWhile_cons_of_pos word,
          List.takeWhile_cons_of_pos word]
        cases argumentsBehind? closing (rest.dropWhile isWordChar) with
        | some found => rfl
        | none =>
            cases (runs isWordChar rest).findSome? (close? closing) with
            | some found => rfl
            | none => rfl
      · rw [runs, if_neg word, List.findSome?_singleton, List.findSome?_singleton, firstBehind?,
          List.dropWhile_cons_of_neg word, List.takeWhile_cons_of_neg word]

/-- The marker read at the front of a text is the first that a matcher finds. -/
theorem ofFront?_eq_head?_trials (closing rest : Text) :
    ofFront? closing rest = (trials closing rest).head? := by
  rw [head?_trials]
  cases rest with
  | nil => rfl
  | cons c rest =>
      by_cases word : isWordChar c = true
      · simp only [ofFront?, List.takeWhile_cons_of_pos word, List.dropWhile_cons_of_pos word,
          ne_eq, reduceCtorEq, not_false_eq_true, true_and, longestName?, if_pos word]
        rw [someRuns_cons word, findSome?_map_firstBehind?, findSome?_runs_firstBehind?,
          findSome?_runs_isWordChar]
        rw [← argumentsBehind?]
        cases argumentsBehind? closing (rest.dropWhile isWordChar) with
        | some found => rfl
        | none =>
            cases longestName? closing rest with
            | some found => rfl
            | none =>
                cases closed : closing.isPrefixOf? rest <;> simp only [close?, closed] <;> rfl
      · have stops := stops_cons (Bool.eq_false_iff.mpr word) rest
        simp only [someRuns_of_stops stops, ofFront?, takeWhile_of_stops stops, longestName?,
          if_neg word]
        rfl

/-! ### What trials take -/

theorem shape_of_mem_runs {good : Char → Bool} {text front behind : Text}
    (member : (front, behind) ∈ runs good text) :
    text = front ++ behind ∧ ∀ c ∈ front, good c = true := by
  induction text generalizing front behind with
  | nil =>
      cases List.mem_singleton.mp member
      exact ⟨rfl, fun _ inside => absurd inside List.not_mem_nil⟩
  | cons c rest ih =>
      rw [runs] at member
      split at member
      · next inside =>
          rcases List.mem_append.mp member with longer | last
          · obtain ⟨shorter, present, same⟩ := List.mem_map.mp longer
            cases same
            obtain ⟨shape, good⟩ := ih present
            exact ⟨congrArg (c :: ·) shape, List.forall_mem_cons.mpr ⟨inside, good⟩⟩
          · cases List.mem_singleton.mp last
            exact ⟨rfl, fun _ inside => absurd inside List.not_mem_nil⟩
      · cases List.mem_singleton.mp member
        exact ⟨rfl, fun _ inside => absurd inside List.not_mem_nil⟩

theorem shape_of_mem_someRuns {good : Char → Bool} {text front behind : Text}
    (member : (front, behind) ∈ someRuns good text) :
    text = front ++ behind ∧ (∀ c ∈ front, good c = true) ∧ front ≠ [] := by
  obtain ⟨present, filled⟩ := List.mem_filter.mp member
  obtain ⟨shape, inside⟩ := shape_of_mem_runs present
  refine ⟨shape, inside, ?_⟩
  intro empty
  rw [empty] at filled
  cases filled

theorem shape_of_mem_argumentRuns {text arguments behind : Text}
    (member : (arguments, behind) ∈ argumentRuns text) :
    text = arguments ++ behind ∧ endsSolid arguments = true ∧ '\n' ∉ arguments := by
  obtain ⟨⟨front, after⟩, present, found⟩ := List.mem_flatMap.mp member
  obtain ⟨shape, inside⟩ := shape_of_mem_runs present
  cases after with
  | nil => cases found
  | cons c rest =>
      by_cases blank : isBlank c = true
      · simp [blank] at found
      · simp only [blank] at found
        cases List.mem_singleton.mp found
        rw [endsSolid_eq_true_iff, shape, List.append_assoc]
        refine ⟨rfl, ⟨c, List.getLast?_concat, Bool.eq_false_iff.mpr blank⟩, ?_⟩
        intro feed
        rcases List.mem_append.mp feed with before | last
        · exact of_decide_eq_true (inside '\n' before) rfl
        · rw [← List.mem_singleton.mp last] at blank
          exact blank (by decide)

theorem parts_of_endsSolid {name blanks arguments : Text} (named : name ≠ [])
    (word : ∀ c ∈ name, isWordChar c = true) (present : blanks ≠ [])
    (blank : ∀ c ∈ blanks, isBlank c = true) (ends : endsSolid arguments = true) :
    Parts name (blanks ++ arguments.takeWhile isBlank) (arguments.dropWhile isBlank) := by
  obtain ⟨c, last, solid⟩ := endsSolid_eq_true_iff.mp ends
  have whole := List.takeWhile_append_dropWhile (p := isBlank) (l := arguments)
  have led : ∀ d ∈ arguments.takeWhile isBlank, isBlank d = true :=
    List.all_eq_true.mp List.all_takeWhile
  have filled : arguments.dropWhile isBlank ≠ [] := by
    intro empty
    rw [empty, List.append_nil] at whole
    rw [← whole] at last
    rw [led c (List.mem_of_getLast? last)] at solid
    cases solid
  obtain ⟨d, rest, shape⟩ := List.exists_cons_of_ne_nil filled
  refine ⟨named, word,
    Or.inr ⟨?_, List.forall_mem_append.mpr ⟨blank, led⟩, ⟨d, ?_, ?_⟩, c, ?_, solid⟩⟩
  · exact fun empty => present (List.append_eq_nil_iff.mp empty).1
  · rw [shape]
    rfl
  · exact stops_dropWhile isBlank arguments d (by rw [shape]; rfl)
  · rw [← whole, List.getLast?_append] at last
    rw [List.getLast?_eq_some_getLast filled] at last ⊢
    exact last

private theorem closing_of_mem {closing : Text} {way : Text × Text}
    {g : Text × Text → Marker × Text} {found : Marker × Text}
    (member : found ∈ (close? closing way).toList.map g) :
    ∃ behind, way.2 = closing ++ behind ∧ found = g (way.1, behind) := by
  obtain ⟨closed, present, rfl⟩ := List.mem_map.mp member
  obtain ⟨behind, dropped, rfl⟩ := Option.map_eq_some_iff.mp (Option.mem_toList.mp present)
  exact ⟨behind, (List.append_eq_of_isPrefixOf?_eq_some dropped).symm, rfl⟩

/-- A trial takes the body of a marker of its name and the closing text off the
front. -/
theorem body_of_mem_trials {closing rest behind : Text} {marker : Marker}
    (member : (marker, behind) ∈ trials closing rest) :
    ∃ body found, rest = body ++ closing ++ behind ∧ ofBody? body = some found ∧
      found.name = marker.name := by
  obtain ⟨⟨name, after⟩, named, tried⟩ := List.mem_flatMap.mp member
  obtain ⟨rfl, word, present⟩ := shape_of_mem_someRuns named
  rcases List.mem_append.mp tried with divided | bare
  · obtain ⟨⟨blanks, argued⟩, spaced, divided⟩ := List.mem_flatMap.mp divided
    obtain ⟨⟨arguments, closed⟩, taken, closes⟩ := List.mem_flatMap.mp divided
    obtain ⟨rfl, blank, filled⟩ := shape_of_mem_someRuns spaced
    obtain ⟨rfl, ends, noFeed⟩ := shape_of_mem_argumentRuns taken
    obtain ⟨left, rfl, same⟩ := closing_of_mem closes
    cases same
    have parts := parts_of_endsSolid present word filled blank ends
    have read := ofBody?_of_parts parts fun feed =>
      noFeed ((List.dropWhile_sublist isBlank).subset feed)
    rw [List.append_assoc, List.takeWhile_append_dropWhile] at read
    refine ⟨_, _, ?_, read, rfl⟩
    simp only [List.append_assoc]
  · obtain ⟨left, rfl, same⟩ := closing_of_mem bare
    cases same
    have read := ofBody?_of_parts ⟨present, word, Or.inl ⟨rfl, rfl⟩⟩ List.not_mem_nil
    refine ⟨_, _, ?_, read, rfl⟩
    simp only [List.append_nil, List.append_assoc]

def lineTrials (delimiters : Delimiters) (line : Text) : List (Marker × Text) :=
  match delimiters.opening.isPrefixOf? line with
  | none => []
  | some rest => trials delimiters.closing rest

theorem ofLine?_eq_find?_lineTrials (delimiters : Delimiters) (line : Text) :
    ofLine? delimiters line =
      ((lineTrials delimiters line).find? fun way => way.2 = []).map Prod.fst := by
  cases found : ofLine? delimiters line with
  | some marker =>
      obtain ⟨body, shape, inside⟩ := ofLine?_eq_some_iff.mp found
      obtain ⟨blanks, rfl, parts, noFeed⟩ := parts_of_ofBody? inside
      rw [List.append_assoc] at shape
      have first := ofFront?_of_parts parts noFeed delimiters.closing
      rw [ofFront?_eq_head?_trials] at first
      obtain ⟨later, trials⟩ := List.head?_eq_some_iff.mp first
      rw [lineTrials, List.isPrefixOf?_eq_some_iff_append_eq.mpr shape.symm]
      simp only [trials]
      rfl
  | none =>
      have nothing : (lineTrials delimiters line).find? (fun way => way.2 = []) = none := by
        rw [List.find?_eq_none]
        rintro ⟨marker, behind⟩ member empty
        cases of_decide_eq_true empty
        unfold lineTrials at member
        split at member
        · cases member
        · next rest lead =>
            obtain ⟨body, other, rfl, inside, _named⟩ := body_of_mem_trials member
            have shape := (List.append_eq_of_isPrefixOf?_eq_some lead).symm
            rw [List.append_nil, ← List.append_assoc] at shape
            rw [ofLine?_eq_some_iff.mpr ⟨body, shape, inside⟩] at found
            cases found
      rw [nothing]
      rfl

theorem leading?_eq_head?_lineTrials (delimiters : Delimiters) (line : Text) :
    leading? delimiters line = (lineTrials delimiters line).head?.filter fun way => way.2 ≠ [] := by
  unfold leading? lineTrials
  cases delimiters.opening.isPrefixOf? line with
  | none => rfl
  | some rest =>
      simp only [ofFront?_eq_head?_trials]
      cases (trials delimiters.closing rest).head? with
      | none => rfl
      | some way => by_cases empty : way.2 = [] <;> simp [Option.filter, empty]

/-- A line is a whole marker exactly when it can be divided into the delimiters and
the parts of a marker.  There is one such division at most, whatever the delimiters
are made of, and such a line is never a marker with text behind it.  Both readings
are the first fitting trials of a matcher that prefers what is longer. -/
theorem whole_marker_divides_once {delimiters : Delimiters} {line : Text} (noFeed : '\n' ∉ line) :
    (∀ name arguments, ofLine? delimiters line = some ⟨name, arguments⟩ ↔
      ∃ blanks, LineParts delimiters line name blanks arguments) ∧
    (∀ name blanks arguments name' blanks' arguments',
      LineParts delimiters line name blanks arguments →
      LineParts delimiters line name' blanks' arguments' →
      name = name' ∧ blanks = blanks' ∧ arguments = arguments') ∧
    ((ofLine? delimiters line).isSome = true → leading? delimiters line = none) ∧
    ofLine? delimiters line =
      ((lineTrials delimiters line).find? fun way => way.2 = []).map Prod.fst ∧
    leading? delimiters line =
      (lineTrials delimiters line).head?.filter fun way => way.2 ≠ [] := by
  refine ⟨?_, ?_, ?_, ofLine?_eq_find?_lineTrials delimiters line,
    leading?_eq_head?_lineTrials delimiters line⟩
  · intro name arguments
    constructor
    · exact lineParts_of_ofLine?
    · rintro ⟨blanks, divided⟩
      exact ofLine?_of_lineParts noFeed divided
  · intro name blanks arguments name' blanks' arguments' divided other
    exact divided.unique noFeed other
  · intro whole
    obtain ⟨marker, found⟩ := Option.isSome_iff_exists.mp whole
    exact leading?_eq_none_of_ofLine? found

/-- Delimiters of word characters and a space: the name could go on into the
closing delimiter, and the arguments end in a copy of it. -/
theorem whole_marker_divides_once_overlapping :
    LineParts ⟨"E".toList, " N".toList⟩ "EEND b N N".toList "END".toList " ".toList "b N".toList ∧
    ofLine? ⟨"E".toList, " N".toList⟩ "EEND b N N".toList =
      some ⟨"END".toList, "b N".toList⟩ ∧
    leading? ⟨"E".toList, " N".toList⟩ "EEND b N N".toList = none := by
  have divided : LineParts ⟨"E".toList, " N".toList⟩ "EEND b N N".toList "END".toList " ".toList
      "b N".toList :=
    { present := by decide
      word := List.all_eq_true.mp (by decide)
      behind := Or.inr ⟨by decide, List.all_eq_true.mp (by decide), ⟨'b', rfl, by decide⟩,
        'N', rfl, by decide⟩
      line_eq := rfl }
  have once := @whole_marker_divides_once ⟨"E".toList, " N".toList⟩ "EEND b N N".toList (by decide)
  have found := (once.1 _ _).mpr ⟨_, divided⟩
  exact ⟨divided, found, once.2.2.1 (Option.isSome_iff_exists.mpr ⟨_, found⟩)⟩

end Marker

end ChangeScript

/-
Attribute lists that are written and read back.

A list with distinct names, none of them empty and none with a blank or an
equals sign, is read back from its written form whatever its values hold.
Every list that was read has such names, and its values are made of characters
of the text they were read from.
-/

import Mathlib.Data.List.Nodup
import ChangeScript.Attribute

set_option autoImplicit false

namespace ChangeScript

open Text

namespace Text

/-- A text that does not go on with a character of the given class. -/
def Stops (good : Char → Bool) (text : Text) : Prop := ∀ c, text.head? = some c → good c = false

theorem stops_nil (good : Char → Bool) : Stops good [] := fun _ head => nomatch head

theorem stops_cons {good : Char → Bool} {c : Char} (other : good c = false) (rest : Text) :
    Stops good (c :: rest) := by
  intro d head
  cases head
  exact other

theorem stops_dropWhile (good : Char → Bool) (text : Text) : Stops good (text.dropWhile good) := by
  induction text with
  | nil => exact stops_nil good
  | cons c rest ih =>
      by_cases inside : good c = true
      · rw [List.dropWhile_cons_of_pos inside]
        exact ih
      · rw [List.dropWhile_cons_of_neg inside]
        exact stops_cons (Bool.eq_false_iff.mpr inside) rest

theorem takeWhile_of_stops {good : Char → Bool} {text : Text} (stops : Stops good text) :
    text.takeWhile good = [] := by
  cases text with
  | nil => rfl
  | cons c rest => exact List.takeWhile_cons_of_neg (Bool.eq_false_iff.mp (stops c rfl))

theorem dropWhile_of_stops {good : Char → Bool} {text : Text} (stops : Stops good text) :
    text.dropWhile good = text := by
  cases text with
  | nil => rfl
  | cons c rest => exact List.dropWhile_cons_of_neg (Bool.eq_false_iff.mp (stops c rfl))

theorem takeWhile_append_of_stops {good : Char → Bool} {run rest : Text}
    (inside : ∀ c ∈ run, good c = true) (stops : Stops good rest) :
    (run ++ rest).takeWhile good = run := by
  rw [List.takeWhile_append_of_pos inside, takeWhile_of_stops stops, List.append_nil]

theorem dropWhile_append_of_stops {good : Char → Bool} {run rest : Text}
    (inside : ∀ c ∈ run, good c = true) (stops : Stops good rest) :
    (run ++ rest).dropWhile good = rest := by
  rw [List.dropWhile_append_of_pos inside, dropWhile_of_stops stops]

theorem exists_run_of_dropWhile {good : Char → Bool} {text rest : Text}
    (shape : text.dropWhile good = rest) :
    ∃ run, text = run ++ rest ∧ (∀ c ∈ run, good c = true) ∧ Stops good rest := by
  subst shape
  exact ⟨_, List.takeWhile_append_dropWhile.symm, List.all_eq_true.mp List.all_takeWhile,
    stops_dropWhile good text⟩

theorem exists_run (good : Char → Bool) (text : Text) :
    ∃ run rest, text = run ++ rest ∧ (∀ c ∈ run, good c = true) ∧ Stops good rest := by
  obtain ⟨run, split⟩ := exists_run_of_dropWhile (Eq.refl (text.dropWhile good))
  exact ⟨run, _, split⟩

end Text

namespace Attribute

/-- Distinct names that are not empty and hold neither a blank nor an equals sign. -/
structure WellNamed (entries : List Attribute) : Prop where
  distinct : (entries.map Attribute.name).Nodup
  present : ∀ entry ∈ entries, entry.name ≠ []
  plain : ∀ entry ∈ entries, ∀ c ∈ entry.name, isNameChar c = true

instance (entries : List Attribute) : Decidable (WellNamed entries) :=
  decidable_of_iff
    ((entries.map Attribute.name).Nodup ∧ (∀ entry ∈ entries, entry.name ≠ []) ∧
      ∀ entry ∈ entries, entry.name.all isNameChar = true)
    ⟨fun ⟨distinct, present, plain⟩ =>
        ⟨distinct, present, fun entry member => List.all_eq_true.mp (plain entry member)⟩,
      fun named => ⟨named.distinct, named.present,
        fun entry member => List.all_eq_true.mpr (named.plain entry member)⟩⟩

/-- Among distinct names, the value found for a name is the one declared with it. -/
theorem find?_eq_some_iff {entries : List Attribute}
    (distinct : (entries.map Attribute.name).Nodup) {name value : Text} :
    find? name entries = some value ↔ ⟨name, value⟩ ∈ entries := by
  constructor
  · intro found
    obtain ⟨entry, first, rfl⟩ := Option.map_eq_some_iff.mp found
    have named := List.find?_some first
    rw [← of_decide_eq_true named]
    exact List.mem_of_find?_eq_some first
  · intro declared
    cases first : entries.find? fun entry => entry.name = name with
    | none => exact absurd (decide_eq_true rfl) (List.find?_eq_none.mp first _ declared)
    | some entry =>
        have named := List.find?_some first
        have member := List.mem_of_find?_eq_some first
        have same := List.inj_on_of_nodup_map distinct member declared (of_decide_eq_true named)
        rw [find?, first, same]
        rfl

theorem not_isBlank_of_isNameChar {c : Char} (plain : isNameChar c = true) : isBlank c = false := by
  simp only [isNameChar, Bool.and_eq_true, Bool.not_eq_true'] at plain
  exact plain.1

/-! ### Reading what was written -/

theorem readBody_quote (quote : Char) (rest : Text) :
    readBody quote (quote :: rest) = some ([], rest) := by
  rw [readBody.eq_def]
  simp

theorem readBody_escaped {quote d : Char} (other : quote ≠ '\\')
    (special : d = quote ∨ d = '\\') (rest : Text) :
    readBody quote ('\\' :: d :: rest) =
      (readBody quote rest).map fun found => (d :: found.1, found.2) := by
  rw [readBody.eq_def]
  simp [other.symm, special]

theorem readBody_kept {quote d : Char} (other : quote ≠ '\\') (notQuote : d ≠ quote)
    (notBackslash : d ≠ '\\') (rest : Text) :
    readBody quote ('\\' :: d :: rest) =
      (readBody quote (d :: rest)).map fun found => ('\\' :: found.1, found.2) := by
  rw [readBody.eq_def]
  simp [other.symm, notQuote, notBackslash]

theorem readBody_plain {quote c : Char} (notQuote : c ≠ quote) (notBackslash : c ≠ '\\')
    (rest : Text) :
    readBody quote (c :: rest) =
      (readBody quote rest).map fun found => (c :: found.1, found.2) := by
  rw [readBody.eq_def]
  simp [notQuote, notBackslash]

/-- The body of a written value ends at the quote that closes it, whatever
backslashes and quotes stand in the value. -/
theorem readBody_escape (value after : Text) :
    readBody '"' (escape value ++ '"' :: after) = some (value, after) := by
  induction value with
  | nil => exact readBody_quote '"' after
  | cons c rest ih =>
      by_cases special : c = '\\' ∨ c = '"'
      · rw [escape, if_pos special, List.cons_append, List.cons_append,
          readBody_escaped (by decide) special.symm, ih, Option.map_some]
      · have notQuote : c ≠ '"' := fun same => special (Or.inr same)
        have notBackslash : c ≠ '\\' := fun same => special (Or.inl same)
        rw [escape, if_neg special, List.cons_append, readBody_plain notQuote notBackslash, ih,
          Option.map_some]

theorem readOne_written {entry : Attribute} (present : entry.name ≠ [])
    (plain : ∀ c ∈ entry.name, isNameChar c = true) (after : Text) :
    readOne (entry.name ++ '=' :: '"' :: (escape entry.value ++ '"' :: after)) =
      .ok (entry, after) := by
  have stops (behind : Text) : Stops isNameChar ('=' :: behind) := stops_cons (by decide) behind
  unfold readOne
  rw [takeWhile_append_of_stops plain (stops _), dropWhile_append_of_stops plain (stops _),
    List.dropWhile_cons_of_neg (by decide)]
  simp only [if_neg present, if_true]
  rw [List.dropWhile_cons_of_neg (by decide)]
  simp only [readValue, isQuote, decide_true, Bool.true_or, if_true, readBody_escape]

theorem readAfter_eq (known : List Attribute) (text : Text) :
    readAfter known text =
      match text.dropWhile isBlank with
      | [] => .ok known
      | c :: rest =>
          match readOne (c :: rest) with
          | .error fault => .error fault
          | .ok (entry, after) =>
              if known.any fun earlier => earlier.name = entry.name then
                .error (.duplicate entry.name)
              else readAfter (known ++ [entry]) after := by
  rw [readAfter]
  split
  · next shape => rw [shape]
  · next c rest shape =>
      simp only [shape]
      split
      · next fault read => rw [read]
      · next entry after read => rw [read]

theorem readAfter_entry {known : List Attribute} {text rest after : Text} {c : Char}
    {entry : Attribute} (shape : text.dropWhile isBlank = c :: rest)
    (read : readOne (c :: rest) = .ok (entry, after))
    (fresh : (known.any fun earlier => earlier.name = entry.name) = false) :
    readAfter known text = readAfter (known ++ [entry]) after := by
  rw [readAfter_eq, shape]
  simp only [read, fresh, Bool.false_eq_true, if_false]

theorem notMem_names_of_nodup {known rest : List Attribute} {entry : Attribute}
    (distinct : ((known ++ entry :: rest).map Attribute.name).Nodup) :
    entry.name ∉ known.map Attribute.name := by
  rw [List.map_append, List.nodup_append] at distinct
  intro before
  exact distinct.2.2 entry.name before entry.name List.mem_cons_self rfl

theorem nodup_names_snoc {known : List Attribute} {entry : Attribute}
    (distinct : (known.map Attribute.name).Nodup) (absent : entry.name ∉ known.map Attribute.name) :
    ((known ++ [entry]).map Attribute.name).Nodup := by
  rw [List.map_append, List.nodup_append]
  refine ⟨distinct, by simp, ?_⟩
  intro name before other behind same
  rw [List.map_singleton, List.mem_singleton] at behind
  rw [same, behind] at before
  exact absent before

theorem any_name_eq_true_iff {known : List Attribute} {name : Text} :
    (known.any fun earlier => earlier.name = name) = true ↔ name ∈ known.map Attribute.name := by
  simp only [List.any_eq_true, decide_eq_true_eq, List.mem_map]

theorem readList_dropWhile_isBlank (text : Text) :
    readList (text.dropWhile isBlank) = readList text := by
  rw [readList, readList, readAfter_eq [] (text.dropWhile isBlank),
    dropWhile_of_stops (stops_dropWhile isBlank text), ← readAfter_eq]

private theorem write_append (entry : Attribute) (after : Text) :
    write entry ++ after =
      ' ' :: (entry.name ++ '=' :: '"' :: (escape entry.value ++ '"' :: after)) := by
  simp [write]

private theorem fresh_of_wellNamed {known rest : List Attribute} {entry : Attribute}
    (named : WellNamed (known ++ entry :: rest)) :
    (known.any fun earlier => earlier.name = entry.name) = false := by
  rw [← Bool.not_eq_true, any_name_eq_true_iff]
  exact notMem_names_of_nodup named.distinct

private theorem readAfter_writeList (known entries : List Attribute)
    (named : WellNamed (known ++ entries)) :
    readAfter known (writeList entries) = .ok (known ++ entries) := by
  induction entries generalizing known with
  | nil =>
      rw [readAfter_eq]
      simp [writeList]
  | cons entry rest ih =>
      have member : entry ∈ known ++ entry :: rest :=
        List.mem_append_right known List.mem_cons_self
      have present := named.present entry member
      have plain := named.plain entry member
      have fresh := fresh_of_wellNamed named
      have read := readOne_written present plain (writeList rest)
      obtain ⟨c, name, shape⟩ := List.exists_cons_of_ne_nil present
      have solid : ¬isBlank c = true := by
        rw [Bool.not_eq_true]
        exact not_isBlank_of_isNameChar (plain c (by rw [shape]; exact List.mem_cons_self))
      have trimmed : (writeList (entry :: rest)).dropWhile isBlank =
          c :: (name ++ '=' :: '"' :: (escape entry.value ++ '"' :: writeList rest)) := by
        change (write entry ++ writeList rest).dropWhile isBlank = _
        rw [write_append, shape, List.cons_append, List.dropWhile_cons_of_pos (by decide),
          List.dropWhile_cons_of_neg solid]
      have regroup : known ++ entry :: rest = (known ++ [entry]) ++ rest := by
        rw [List.append_assoc, List.singleton_append]
      rw [shape, List.cons_append] at read
      rw [readAfter_entry trimmed read fresh, regroup]
      rw [regroup] at named
      exact ih (known ++ [entry]) named

/-- Reading undoes the writing of a list of well-named attributes. -/
theorem readList_writeList {entries : List Attribute} (named : WellNamed entries) :
    readList (writeList entries) = .ok entries :=
  readAfter_writeList [] entries named

private theorem readBody_subset {quote : Char} {text value after : Text}
    (found : readBody quote text = some (value, after)) : value ⊆ text ∧ after ⊆ text := by
  fun_induction readBody quote text generalizing value after with
  | case1 => cases found
  | case2 rest =>
      cases found
      exact ⟨List.nil_subset _, List.subset_cons_self _ _⟩
  | case3 _ => cases found
  | case4 d behind _ _ ih =>
      obtain ⟨⟨tail, left⟩, read, same⟩ := Option.map_eq_some_iff.mp found
      cases same
      obtain ⟨inValue, inAfter⟩ := ih read
      exact ⟨List.subset_cons_of_subset _ (List.cons_subset_cons _ inValue),
        List.subset_cons_of_subset _ (List.subset_cons_of_subset _ inAfter)⟩
  | case5 d behind _ _ ih =>
      obtain ⟨⟨tail, left⟩, read, same⟩ := Option.map_eq_some_iff.mp found
      cases same
      obtain ⟨inValue, inAfter⟩ := ih read
      exact ⟨List.cons_subset_cons _ inValue, List.subset_cons_of_subset _ inAfter⟩
  | case6 c rest _ _ ih =>
      obtain ⟨⟨tail, left⟩, read, same⟩ := Option.map_eq_some_iff.mp found
      cases same
      obtain ⟨inValue, inAfter⟩ := ih read
      exact ⟨List.cons_subset_cons _ inValue, List.subset_cons_of_subset _ inAfter⟩

private theorem readValue_subset {text value after : Text}
    (found : readValue text = .ok (value, after)) : value ⊆ text ∧ after ⊆ text := by
  cases text with
  | nil => cases found
  | cons quote rest =>
      simp only [readValue] at found
      split at found
      · split at found
        · next body read =>
            cases found
            obtain ⟨inValue, inAfter⟩ := readBody_subset read
            exact ⟨List.subset_cons_of_subset _ inValue, List.subset_cons_of_subset _ inAfter⟩
        · cases found
      · cases found

/-- An attribute that was read has a name of name characters, and its value and
what follows it are made of characters of the text. -/
structure ReadFrom (text : Text) (entry : Attribute) (after : Text) : Prop where
  present : entry.name ≠ []
  plain : ∀ c ∈ entry.name, isNameChar c = true
  value_subset : entry.value ⊆ text
  after_subset : after ⊆ text

theorem readFrom_of_readOne {text after : Text} {entry : Attribute}
    (found : readOne text = .ok (entry, after)) : ReadFrom text entry after := by
  simp only [readOne] at found
  split at found
  · cases found
  · next present =>
      split at found
      · cases found
      · next c rest shape =>
          split at found
          · split at found
            · next value read =>
                cases found
                obtain ⟨inValue, inAfter⟩ := readValue_subset read
                have inside : rest.dropWhile isBlank ⊆ text := by
                  have behind : rest ⊆ (text.dropWhile isNameChar).dropWhile isBlank := by
                    rw [shape]
                    exact List.subset_cons_self c rest
                  exact fun d member => List.dropWhile_subset isNameChar
                    (List.dropWhile_subset isBlank (behind (List.dropWhile_subset isBlank member)))
                exact
                  { present := present
                    plain := List.all_eq_true.mp List.all_takeWhile
                    value_subset := fun _ member => inside (inValue member)
                    after_subset := fun _ member => inside (inAfter member) }
            · cases found
          · cases found

private theorem WellNamed.snoc {known : List Attribute} {entry : Attribute}
    (named : WellNamed known) (present : entry.name ≠ [])
    (plain : ∀ c ∈ entry.name, isNameChar c = true)
    (fresh : (known.any fun earlier => earlier.name = entry.name) = false) :
    WellNamed (known ++ [entry]) := by
  have absent : entry.name ∉ known.map Attribute.name := by
    rw [← any_name_eq_true_iff, fresh]
    exact Bool.false_ne_true
  refine ⟨nodup_names_snoc named.distinct absent, ?_, ?_⟩
  · intro other member
    rcases List.mem_append.mp member with before | last
    · exact named.present other before
    · rw [List.mem_singleton.mp last]
      exact present
  · intro other member
    rcases List.mem_append.mp member with before | last
    · exact named.plain other before
    · rw [List.mem_singleton.mp last]
      exact plain

/-- What reading on keeps: well-named attributes whose values are made of
characters of `whole`, of which the text still to be read is a part. -/
private theorem readAfter_keeps {known entries : List Attribute} {text : Text} (whole : Text)
    (read : readAfter known text = .ok entries) (inside : text ⊆ whole)
    (named : WellNamed known) (values : ∀ entry ∈ known, entry.value ⊆ whole) :
    WellNamed entries ∧ ∀ entry ∈ entries, entry.value ⊆ whole := by
  fun_induction readAfter known text with
  | case1 known text shape =>
      cases read
      exact ⟨named, values⟩
  | case2 known text c rest shape fault found => cases read
  | case3 known text c rest shape entry after found repeated => cases read
  | case4 known text c rest shape entry after found repeated ih =>
      have source := readFrom_of_readOne found
      have fromText : c :: rest ⊆ whole := by
        rw [← shape]
        exact fun d member => inside (List.dropWhile_subset isBlank member)
      apply ih read
      · exact fun d member => fromText (source.after_subset member)
      · exact named.snoc source.present source.plain (Bool.eq_false_iff.mpr repeated)
      · intro other member
        rcases List.mem_append.mp member with before | last
        · exact values other before
        · rw [List.mem_singleton.mp last]
          exact fun d present => fromText (source.value_subset present)

private theorem wellNamed_nil : WellNamed [] :=
  { distinct := List.nodup_nil
    present := fun _ member => absurd member List.not_mem_nil
    plain := fun _ member => absurd member List.not_mem_nil }

theorem wellNamed_of_readList {text : Text} {entries : List Attribute}
    (read : readList text = .ok entries) : WellNamed entries :=
  (readAfter_keeps text read (fun _ member => member) wellNamed_nil
    (fun _ member => absurd member List.not_mem_nil)).1

theorem value_subset_of_readList {text : Text} {entries : List Attribute}
    (read : readList text = .ok entries) : ∀ entry ∈ entries, entry.value ⊆ text :=
  (readAfter_keeps text read (fun _ member => member) wellNamed_nil
    (fun _ member => absurd member List.not_mem_nil)).2

end Attribute

end ChangeScript

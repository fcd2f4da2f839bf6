/-
The grammar of attribute lists.

A text is read as an attribute list exactly when it is a row of complete
attributes with distinct names, and what is read is what they spell.  Any other
text has one longest beginning of that form, and the first attribute behind it
decides the fault.
-/

import ChangeScript.Proofs.Attribute

set_option autoImplicit false

namespace ChangeScript

open Text

namespace Attribute

/-- What can stand between two quotes, and the value it spells. -/
inductive Body (quote : Char) : Text → Text → Prop
  | done : Body quote [] []
  | escaped {d : Char} {raw value : Text} (special : d = quote ∨ d = '\\')
      (behind : Body quote raw value) : Body quote ('\\' :: d :: raw) (d :: value)
  -- A backslash that stands for itself; the character behind it is read on its own.
  | kept {d : Char} {raw value : Text} (notQuote : d ≠ quote) (notBackslash : d ≠ '\\')
      (behind : Body quote (d :: raw) value) : Body quote ('\\' :: d :: raw) ('\\' :: value)
  | plain {c : Char} {raw value : Text} (notQuote : c ≠ quote) (notBackslash : c ≠ '\\')
      (behind : Body quote raw value) : Body quote (c :: raw) (c :: value)

structure Name (name : Text) : Prop where
  present : name ≠ []
  plain : ∀ c ∈ name, isNameChar c = true

inductive Assigns (name : Text) : Text → Prop
  | intro {before after : Text} (named : Name name) (blankBefore : ∀ c ∈ before, isBlank c = true)
      (blankAfter : ∀ c ∈ after, isBlank c = true) :
      Assigns name (name ++ (before ++ '=' :: after))

inductive Spells : Text → Attribute → Prop
  | intro {name front raw value : Text} {quote : Char} (assigns : Assigns name front)
      (quotes : isQuote quote = true) (body : Body quote raw value) :
      Spells (front ++ quote :: (raw ++ [quote])) ⟨name, value⟩

/-- Complete attributes in a row, with blanks or nothing around each of them. -/
inductive Listing : Text → List Attribute → Prop
  | done {blanks : Text} (blank : ∀ c ∈ blanks, isBlank c = true) : Listing blanks []
  | entry {blanks text rest : Text} {entry : Attribute} {entries : List Attribute}
      (blank : ∀ c ∈ blanks, isBlank c = true) (spelled : Spells text entry)
      (behind : Listing rest entries) : Listing (blanks ++ (text ++ rest)) (entry :: entries)

/-- How the first attribute of a text can fall short of a complete one. -/
inductive Broken : Text → Fault → Prop
  | emptyName (rest : Text) : Broken ('=' :: rest) .emptyName
  | missingEquals {name blanks rest : Text} (named : Name name)
      (blank : ∀ c ∈ blanks, isBlank c = true)
      (other : rest = [] ∨ blanks ≠ [] ∧ ∃ c more, rest = c :: more ∧ isNameChar c = true) :
      Broken (name ++ (blanks ++ rest)) .missingEquals
  | missingValue {name front : Text} (assigns : Assigns name front) : Broken front .missingValue
  | unquotedValue {name front rest : Text} {c : Char} (assigns : Assigns name front)
      (solid : isBlank c = false) (bare : isQuote c = false) :
      Broken (front ++ c :: rest) .unquotedValue
  | unterminatedValue {name front rest : Text} {quote : Char} (assigns : Assigns name front)
      (quotes : isQuote quote = true)
      (endless : ∀ raw value after, Body quote raw value → rest ≠ raw ++ quote :: after) :
      Broken (front ++ quote :: rest) .unterminatedValue

/-- How the first attribute of a text can fail behind the given ones. -/
inductive Fails (known : List Attribute) : Text → Fault → Prop
  | broken {text : Text} {fault : Fault} (breaks : Broken text fault) : Fails known text fault
  | duplicate {text rest : Text} {entry : Attribute} (spelled : Spells text entry)
      (repeated : entry.name ∈ known.map Attribute.name) :
      Fails known (text ++ rest) (.duplicate entry.name)

/-- A text divided behind its longest beginning that is a list of attributes
with distinct names. -/
structure Longest (input front : Text) (entries : List Attribute) (rest : Text) : Prop where
  split : input = front ++ rest
  listing : Listing front entries
  distinct : (entries.map Attribute.name).Nodup
  solid : ∃ c more, rest = c :: more ∧ isBlank c = false
  longest : ∀ other entries behind, input = other ++ behind → Listing other entries →
    (entries.map Attribute.name).Nodup → other.length ≤ front.length

private theorem ne_backslash_of_isQuote {quote : Char} (quotes : isQuote quote = true) :
    quote ≠ '\\' := by
  rintro rfl
  exact absurd quotes (by decide)

private theorem not_isBlank_of_isQuote {quote : Char} (quotes : isQuote quote = true) :
    isBlank quote = false := by
  simp only [isQuote, Bool.or_eq_true, decide_eq_true_eq] at quotes
  rcases quotes with rfl | rfl
  · decide
  · decide

theorem readBody_of_body {quote : Char} {raw value : Text} (other : quote ≠ '\\')
    (body : Body quote raw value) (after : Text) :
    readBody quote (raw ++ quote :: after) = some (value, after) := by
  induction body with
  | done => exact readBody_quote quote after
  | escaped special _ ih =>
      rw [List.cons_append, List.cons_append, readBody_escaped other special, ih, Option.map_some]
  | kept notQuote notBackslash _ ih =>
      rw [List.cons_append] at ih
      rw [List.cons_append, List.cons_append, readBody_kept other notQuote notBackslash, ih,
        Option.map_some]
  | plain notQuote notBackslash _ ih =>
      rw [List.cons_append, readBody_plain notQuote notBackslash, ih, Option.map_some]

theorem body_of_readBody {quote : Char} {text value after : Text}
    (found : readBody quote text = some (value, after)) :
    ∃ raw, text = raw ++ quote :: after ∧ Body quote raw value := by
  fun_induction readBody quote text generalizing value after with
  | case1 => cases found
  | case2 rest =>
      cases found
      exact ⟨[], rfl, .done⟩
  | case3 _ => cases found
  | case4 d behind special _ ih =>
      obtain ⟨⟨tail, left⟩, read, same⟩ := Option.map_eq_some_iff.mp found
      cases same
      obtain ⟨raw, rfl, body⟩ := ih read
      exact ⟨'\\' :: d :: raw, rfl, .escaped special body⟩
  | case5 d behind ordinary _ ih =>
      obtain ⟨⟨tail, left⟩, read, same⟩ := Option.map_eq_some_iff.mp found
      cases same
      obtain ⟨raw, shape, body⟩ := ih read
      have notQuote : d ≠ quote := fun same => ordinary (Or.inl same)
      have notBackslash : d ≠ '\\' := fun same => ordinary (Or.inr same)
      cases raw with
      | nil => exact absurd (List.cons.inj shape).1 notQuote
      | cons c raw =>
          obtain ⟨rfl, rfl⟩ := List.cons.inj shape
          exact ⟨'\\' :: d :: raw, rfl, .kept notQuote notBackslash body⟩
  | case6 c rest notQuote notBackslash ih =>
      obtain ⟨⟨tail, left⟩, read, same⟩ := Option.map_eq_some_iff.mp found
      cases same
      obtain ⟨raw, rfl, body⟩ := ih read
      exact ⟨c :: raw, rfl, .plain notQuote notBackslash body⟩

/-! ### The first attribute of a text -/

theorem isNameChar_eq_true_iff {c : Char} :
    isNameChar c = true ↔ isBlank c = false ∧ c ≠ '=' := by
  simp [isNameChar]

private theorem not_isNameChar_of_isBlank {c : Char} (blank : isBlank c = true) :
    isNameChar c = false := by
  simp [isNameChar, blank]

private theorem stops_isNameChar_blanks {blanks rest : Text}
    (blank : ∀ c ∈ blanks, isBlank c = true) (stops : blanks = [] → Stops isNameChar rest) :
    Stops isNameChar (blanks ++ rest) := by
  cases blanks with
  | nil => exact stops rfl
  | cons c more =>
      exact stops_cons (not_isNameChar_of_isBlank (blank c List.mem_cons_self)) (more ++ rest)

private theorem readOne_named {name behind : Text} (named : Name name)
    (stops : Stops isNameChar behind) :
    readOne (name ++ behind) =
      match behind.dropWhile isBlank with
      | [] => .error .missingEquals
      | c :: rest =>
          if c = '=' then
            match readValue (rest.dropWhile isBlank) with
            | .ok found => .ok (⟨name, found.1⟩, found.2)
            | .error fault => .error fault
          else .error .missingEquals := by
  unfold readOne
  rw [takeWhile_append_of_stops named.plain stops, dropWhile_append_of_stops named.plain stops]
  exact if_neg named.present

theorem readOne_of_assigns {name front rest : Text} (assigns : Assigns name front)
    (stops : Stops isBlank rest) :
    readOne (front ++ rest) =
      match readValue rest with
      | .ok found => .ok (⟨name, found.1⟩, found.2)
      | .error fault => .error fault := by
  cases assigns with
  | @intro before after named blankBefore blankAfter =>
      have equals : Stops isNameChar ('=' :: (after ++ rest)) := stops_cons (by decide) _
      have solid : Stops isBlank ('=' :: (after ++ rest)) := stops_cons (by decide) _
      have regroup : name ++ (before ++ '=' :: after) ++ rest =
          name ++ (before ++ '=' :: (after ++ rest)) := by
        simp only [List.append_assoc, List.cons_append]
      rw [regroup, readOne_named named (stops_isNameChar_blanks blankBefore fun _ => equals),
        dropWhile_append_of_stops blankBefore solid]
      simp only [if_true, dropWhile_append_of_stops blankAfter stops]

theorem readOne_of_spells {text : Text} {entry : Attribute} (spelled : Spells text entry)
    (rest : Text) : readOne (text ++ rest) = .ok (entry, rest) := by
  cases spelled with
  | @intro name front raw value quote assigns quotes body =>
      have read := readBody_of_body (ne_backslash_of_isQuote quotes) body rest
      rw [List.append_assoc, List.cons_append, List.append_assoc, List.singleton_append,
        readOne_of_assigns assigns (stops_cons (not_isBlank_of_isQuote quotes) _)]
      simp only [readValue, if_pos quotes, read]

theorem readOne_of_broken {text : Text} {fault : Fault} (broken : Broken text fault) :
    readOne text = .error fault := by
  cases broken with
  | emptyName rest => rfl
  | @missingEquals name blanks rest named blank other =>
      have stops : Stops isNameChar (blanks ++ rest) := by
        apply stops_isNameChar_blanks blank
        intro empty
        rcases other with rfl | ⟨present, _⟩
        · exact stops_nil _
        · exact absurd empty present
      rw [readOne_named named stops]
      rcases other with rfl | ⟨_, c, more, rfl, inside⟩
      · rw [dropWhile_append_of_stops blank (stops_nil _)]
      · obtain ⟨solid, notEquals⟩ := isNameChar_eq_true_iff.mp inside
        rw [dropWhile_append_of_stops blank (stops_cons solid more)]
        simp only [if_neg notEquals]
  | missingValue assigns =>
      have read := readOne_of_assigns assigns (stops_nil _)
      rw [List.append_nil] at read
      rw [read]
      rfl
  | unquotedValue assigns solid bare =>
      rw [readOne_of_assigns assigns (stops_cons solid _)]
      simp only [readValue, bare, Bool.false_eq_true, if_false]
  | @unterminatedValue name front rest quote assigns quotes endless =>
      have unread : readBody quote rest = none := by
        rw [Option.eq_none_iff_forall_ne_some]
        rintro ⟨value, after⟩ read
        obtain ⟨raw, shape, body⟩ := body_of_readBody read
        exact endless raw value after body shape
      rw [readOne_of_assigns assigns (stops_cons (not_isBlank_of_isQuote quotes) _)]
      simp only [readValue, if_pos quotes, unread]

private theorem spells_or_broken_of_assigns {name front rest : Text} (assigns : Assigns name front)
    (stops : Stops isBlank rest) :
    (∃ text entry after, front ++ rest = text ++ after ∧ Spells text entry) ∨
      ∃ fault, Broken (front ++ rest) fault := by
  cases rest with
  | nil =>
      rw [List.append_nil]
      exact Or.inr ⟨_, .missingValue assigns⟩
  | cons quote more =>
      cases quotes : isQuote quote with
      | false => exact Or.inr ⟨_, .unquotedValue assigns (stops quote rfl) quotes⟩
      | true =>
          by_cases closed : ∃ raw value after, Body quote raw value ∧ more = raw ++ quote :: after
          · obtain ⟨raw, value, after, body, rfl⟩ := closed
            refine Or.inl ⟨_, _, after, ?_, .intro assigns quotes body⟩
            simp only [List.append_assoc, List.cons_append, List.nil_append]
          · refine Or.inr ⟨_, .unterminatedValue assigns quotes ?_⟩
            exact fun raw value after body shape => closed ⟨raw, value, after, body, shape⟩

/-- A text that does not begin with a blank begins with a complete attribute, or
its first attribute is broken. -/
theorem spells_or_broken {c : Char} {rest : Text} (solid : isBlank c = false) :
    (∃ text entry after, c :: rest = text ++ after ∧ Spells text entry) ∨
      ∃ fault, Broken (c :: rest) fault := by
  by_cases equals : c = '='
  · subst equals
    exact Or.inr ⟨_, .emptyName rest⟩
  · have inside : isNameChar c = true := isNameChar_eq_true_iff.mpr ⟨solid, equals⟩
    obtain ⟨name, behind, shape, plain, stops⟩ := exists_run isNameChar (c :: rest)
    have present : name ≠ [] := by
      rintro rfl
      rw [List.nil_append] at shape
      rw [← shape] at stops
      exact absurd inside (Bool.eq_false_iff.mp (stops c rfl))
    have named : Name name := ⟨present, plain⟩
    obtain ⟨blanks, tail, rfl, blank, stopsBlank⟩ := exists_run isBlank behind
    rw [shape]
    cases tail with
    | nil => exact Or.inr ⟨_, .missingEquals named blank (Or.inl rfl)⟩
    | cons d more =>
        by_cases assigned : d = '='
        · subst assigned
          obtain ⟨after, last, rfl, blankAfter, stopsLast⟩ := exists_run isBlank more
          have regroup : name ++ (blanks ++ '=' :: (after ++ last)) =
              name ++ (blanks ++ '=' :: after) ++ last := by
            simp only [List.append_assoc, List.cons_append]
          rw [regroup]
          exact spells_or_broken_of_assigns (.intro named blank blankAfter) stopsLast
        · have fresh : isNameChar d = true :=
            isNameChar_eq_true_iff.mpr ⟨stopsBlank d rfl, assigned⟩
          have parted : blanks ≠ [] := by
            rintro rfl
            exact absurd fresh (Bool.eq_false_iff.mp (stops d rfl))
          exact Or.inr ⟨_, .missingEquals named blank (Or.inr ⟨parted, d, more, rfl, fresh⟩)⟩

theorem spells_of_readOne {c : Char} {rest after : Text} {entry : Attribute}
    (solid : isBlank c = false) (read : readOne (c :: rest) = .ok (entry, after)) :
    ∃ text, c :: rest = text ++ after ∧ Spells text entry := by
  rcases spells_or_broken solid with ⟨text, other, behind, shape, spelled⟩ | ⟨fault, broken⟩
  · rw [shape, readOne_of_spells spelled] at read
    cases read
    exact ⟨text, shape, spelled⟩
  · rw [readOne_of_broken broken] at read
    cases read

theorem broken_of_readOne {c : Char} {rest : Text} {fault : Fault} (solid : isBlank c = false)
    (read : readOne (c :: rest) = .error fault) : Broken (c :: rest) fault := by
  rcases spells_or_broken solid with ⟨text, entry, behind, shape, spelled⟩ | ⟨other, broken⟩
  · rw [shape, readOne_of_spells spelled] at read
    cases read
  · rw [readOne_of_broken broken] at read
    cases read
    exact broken

theorem Name.exists_solid {name : Text} (named : Name name) (behind : Text) :
    ∃ c more, name ++ behind = c :: more ∧ isBlank c = false := by
  obtain ⟨c, more, rfl⟩ := List.exists_cons_of_ne_nil named.present
  exact ⟨c, more ++ behind, rfl, not_isBlank_of_isNameChar (named.plain c List.mem_cons_self)⟩

theorem Assigns.exists_solid {name front : Text} (assigns : Assigns name front) (behind : Text) :
    ∃ c more, front ++ behind = c :: more ∧ isBlank c = false := by
  obtain ⟨named, _, _⟩ := assigns
  rw [List.append_assoc]
  exact named.exists_solid _

theorem Spells.exists_solid {text : Text} {entry : Attribute} (spelled : Spells text entry)
    (behind : Text) : ∃ c more, text ++ behind = c :: more ∧ isBlank c = false := by
  obtain ⟨assigns, _, _⟩ := spelled
  rw [List.append_assoc]
  exact assigns.exists_solid _

theorem Broken.exists_solid {text : Text} {fault : Fault} (broken : Broken text fault) :
    ∃ c more, text = c :: more ∧ isBlank c = false := by
  cases broken with
  | emptyName rest => exact ⟨'=', rest, rfl, by decide⟩
  | missingEquals named _ _ => exact named.exists_solid _
  | missingValue assigns =>
      have solid := assigns.exists_solid []
      rw [List.append_nil] at solid
      exact solid
  | unquotedValue assigns _ _ => exact assigns.exists_solid _
  | unterminatedValue assigns _ _ => exact assigns.exists_solid _

theorem Fails.exists_solid {known : List Attribute} {text : Text} {fault : Fault}
    (fails : Fails known text fault) : ∃ c more, text = c :: more ∧ isBlank c = false := by
  cases fails with
  | broken breaks => exact breaks.exists_solid
  | duplicate spelled _ => exact spelled.exists_solid _

theorem readAfter_blanks {blanks : Text} (blank : ∀ c ∈ blanks, isBlank c = true)
    (known : List Attribute) (rest : Text) :
    readAfter known (blanks ++ rest) = readAfter known rest := by
  rw [readAfter_eq, List.dropWhile_append_of_pos blank, ← readAfter_eq]

theorem readAfter_spelled {known : List Attribute} {text : Text} {entry : Attribute}
    (spelled : Spells text entry) (absent : entry.name ∉ known.map Attribute.name) (rest : Text) :
    readAfter known (text ++ rest) = readAfter (known ++ [entry]) rest := by
  obtain ⟨c, more, shape, solid⟩ := spelled.exists_solid rest
  have read := readOne_of_spells spelled rest
  rw [← any_name_eq_true_iff, Bool.not_eq_true] at absent
  rw [shape] at read ⊢
  exact readAfter_entry (dropWhile_of_stops (stops_cons solid more)) read absent

theorem readAfter_of_listing {known entries : List Attribute} {text : Text}
    (listing : Listing text entries) (distinct : ((known ++ entries).map Attribute.name).Nodup)
    (rest : Text) :
    readAfter known (text ++ rest) = readAfter (known ++ entries) rest := by
  induction listing generalizing known with
  | done blank => rw [readAfter_blanks blank, List.append_nil]
  | @entry blanks text more entry entries blank spelled _ ih =>
      have regroup : known ++ entry :: entries = (known ++ [entry]) ++ entries := by
        rw [List.append_assoc, List.singleton_append]
      rw [List.append_assoc, readAfter_blanks blank, List.append_assoc,
        readAfter_spelled spelled (notMem_names_of_nodup distinct)]
      rw [regroup] at distinct ⊢
      exact ih distinct

theorem readAfter_of_fails {known : List Attribute} {text : Text} {fault : Fault}
    (fails : Fails known text fault) : readAfter known text = .error fault := by
  obtain ⟨c, more, shape, solid⟩ := fails.exists_solid
  have trimmed : text.dropWhile isBlank = c :: more := by
    rw [shape, dropWhile_of_stops (stops_cons solid more)]
  rw [readAfter_eq, trimmed]
  cases fails with
  | broken breaks =>
      have read := readOne_of_broken breaks
      rw [shape] at read
      simp only [read]
  | @duplicate text rest entry spelled repeated =>
      have read := readOne_of_spells spelled rest
      rw [shape] at read
      simp only [read, any_name_eq_true_iff.mpr repeated, if_true]

theorem Fails.unique {known : List Attribute} {text : Text} {first second : Fault}
    (fails : Fails known text first) (again : Fails known text second) : first = second :=
  Except.error.inj ((readAfter_of_fails fails).symm.trans (readAfter_of_fails again))

private theorem exists_listing_of_blanks {known : List Attribute} {blanks rest : Text}
    (distinct : (known.map Attribute.name).Nodup) (blank : ∀ c ∈ blanks, isBlank c = true)
    (last : rest = [] ∨ ∃ fault, Fails known rest fault) :
    ∃ front entries behind, blanks ++ rest = front ++ behind ∧ Listing front entries ∧
      ((known ++ entries).map Attribute.name).Nodup ∧
      (behind = [] ∨ ∃ fault, Fails (known ++ entries) behind fault) := by
  refine ⟨blanks, [], rest, rfl, .done blank, ?_, ?_⟩
  · rwa [List.append_nil]
  · rwa [List.append_nil]

/-- Every text is a list of new attributes, or such a list and an attribute
behind it that fails. -/
theorem exists_listing (known : List Attribute) (distinct : (known.map Attribute.name).Nodup)
    (text : Text) :
    ∃ front entries rest, text = front ++ rest ∧ Listing front entries ∧
      ((known ++ entries).map Attribute.name).Nodup ∧
      (rest = [] ∨ ∃ fault, Fails (known ++ entries) rest fault) := by
  fun_induction readAfter known text with
  | case1 known text shape =>
      obtain ⟨blanks, rfl, blank, _⟩ := exists_run_of_dropWhile shape
      exact exists_listing_of_blanks distinct blank (Or.inl rfl)
  | case2 known text c more shape fault read =>
      obtain ⟨blanks, rfl, blank, stops⟩ := exists_run_of_dropWhile shape
      exact exists_listing_of_blanks distinct blank
        (Or.inr ⟨fault, .broken (broken_of_readOne (stops c rfl) read)⟩)
  | case3 known text c more shape entry after read repeated =>
      obtain ⟨blanks, rfl, blank, stops⟩ := exists_run_of_dropWhile shape
      obtain ⟨taken, regroup, spelled⟩ := spells_of_readOne (stops c rfl) read
      rw [regroup]
      exact exists_listing_of_blanks distinct blank
        (Or.inr ⟨_, .duplicate spelled (any_name_eq_true_iff.mp repeated)⟩)
  | case4 known text c more shape entry after read absent ih =>
      obtain ⟨blanks, split, blank, stops⟩ := exists_run_of_dropWhile shape
      obtain ⟨taken, regroup, spelled⟩ := spells_of_readOne (stops c rfl) read
      rw [any_name_eq_true_iff] at absent
      obtain ⟨front, entries, rest, rfl, listing, fresh, last⟩ :=
        ih (nodup_names_snoc distinct absent)
      refine ⟨blanks ++ (taken ++ front), entry :: entries, rest, ?_,
        .entry blank spelled listing, ?_, ?_⟩
      · rw [split, regroup, List.append_assoc, List.append_assoc]
      · rwa [List.append_assoc, List.singleton_append] at fresh
      · rwa [List.append_assoc, List.singleton_append] at last

/-! ### Whole texts -/

theorem readList_of_listing {text : Text} {entries : List Attribute}
    (listing : Listing text entries) (distinct : (entries.map Attribute.name).Nodup)
    (rest : Text) : readList (text ++ rest) = readAfter entries rest :=
  @readAfter_of_listing [] entries text listing distinct rest

theorem readList_eq_ok_iff {text : Text} {entries : List Attribute} :
    readList text = .ok entries ↔
      Listing text entries ∧ (entries.map Attribute.name).Nodup := by
  constructor
  · intro read
    obtain ⟨front, found, rest, rfl, listing, distinct, last⟩ :=
      exists_listing [] List.nodup_nil text
    rw [readList_of_listing listing distinct] at read
    rcases last with rfl | ⟨fault, fails⟩
    · rw [readAfter_eq] at read
      cases read
      rw [List.append_nil]
      exact ⟨listing, distinct⟩
    · have failed : readAfter found rest = .error fault := readAfter_of_fails fails
      rw [failed] at read
      cases read
  · rintro ⟨listing, distinct⟩
    have read := readList_of_listing listing distinct []
    rw [List.append_nil, readAfter_eq] at read
    exact read

theorem Fails.mem_names {known : List Attribute} {text rest : Text} {fault : Fault}
    {entry : Attribute} (fails : Fails known (text ++ rest) fault) (spelled : Spells text entry) :
    entry.name ∈ known.map Attribute.name := by
  have read := readOne_of_spells spelled rest
  generalize text ++ rest = whole at fails read
  cases fails with
  | broken breaks =>
      rw [readOne_of_broken breaks] at read
      cases read
  | duplicate other repeated =>
      rw [readOne_of_spells other] at read
      cases read
      exact repeated

theorem fails_or_fresh {c : Char} {rest : Text} (solid : isBlank c = false)
    (known : List Attribute) :
    (∃ fault, Fails known (c :: rest) fault) ∨
      ∃ text entry after, c :: rest = text ++ after ∧ Spells text entry ∧
        entry.name ∉ known.map Attribute.name := by
  rcases spells_or_broken solid with ⟨text, entry, after, shape, spelled⟩ | ⟨fault, broken⟩
  · by_cases repeated : entry.name ∈ known.map Attribute.name
    · rw [shape]
      exact Or.inl ⟨_, .duplicate spelled repeated⟩
    · exact Or.inr ⟨text, entry, after, shape, spelled, repeated⟩
  · exact Or.inl ⟨fault, .broken broken⟩

theorem longest_of_fails {front rest : Text} {entries : List Attribute} {fault : Fault}
    (listing : Listing front entries) (distinct : (entries.map Attribute.name).Nodup)
    (fails : Fails entries rest fault) : Longest (front ++ rest) front entries rest := by
  obtain ⟨c, more, shape, solid⟩ := fails.exists_solid
  refine ⟨rfl, listing, distinct, ⟨c, more, shape, solid⟩, ?_⟩
  intro other found behind split listed differ
  rcases List.append_eq_append_iff.mp split with ⟨extra, rfl, regroup⟩ | ⟨extra, rfl, _⟩
  · cases extra with
    | nil => simp
    | cons d extra =>
        obtain ⟨rfl, _⟩ := List.cons.inj (shape.symm.trans regroup)
        have read : readAfter entries (c :: extra) = .ok found := by
          rw [← readList_of_listing listing distinct]
          exact readList_eq_ok_iff.mpr ⟨listed, differ⟩
        rcases fails_or_fresh solid entries with
          ⟨early, failed⟩ | ⟨text, entry, after, reshape, spelled, absent⟩
        · rw [readAfter_of_fails failed] at read
          cases read
        · rw [regroup, reshape, List.append_assoc] at fails
          exact absurd (fails.mem_names spelled) absent
  · simp

theorem Longest.unique {input front rest other behind : Text} {entries found : List Attribute}
    (first : Longest input front entries rest) (second : Longest input other found behind) :
    other = front ∧ found = entries ∧ behind = rest := by
  have lengths : other.length = front.length :=
    Nat.le_antisymm (first.longest other found behind second.split second.listing second.distinct)
      (second.longest front entries rest first.split first.listing first.distinct)
  obtain ⟨rfl, rfl⟩ := List.append_inj (second.split.symm.trans first.split) lengths
  have same := (readList_eq_ok_iff.mpr ⟨second.listing, second.distinct⟩).symm.trans
    (readList_eq_ok_iff.mpr ⟨first.listing, first.distinct⟩)
  exact ⟨rfl, Except.ok.inj same, rfl⟩

/-- A text is read exactly when it is a list of complete attributes with
distinct names, and what is read is what they spell.  Any other text has one
longest beginning of that form with a character behind it that is no blank, and
the first attribute from there on decides the fault. -/
theorem readList_decided_by_longest (input : Text) :
    (∀ entries, readList input = .ok entries ↔
      Listing input entries ∧ (entries.map Attribute.name).Nodup) ∧
    ((¬∃ entries, Listing input entries ∧ (entries.map Attribute.name).Nodup) →
      ∃ front entries rest fault, Longest input front entries rest ∧
        (∀ other found behind, Longest input other found behind →
          other = front ∧ found = entries ∧ behind = rest) ∧
        readList input = .error fault ∧
        ∀ other, Fails entries rest other ↔ other = fault) := by
  refine ⟨fun entries => readList_eq_ok_iff, ?_⟩
  intro unlisted
  obtain ⟨front, entries, rest, rfl, listing, distinct, last⟩ :=
    exists_listing [] List.nodup_nil input
  rcases last with rfl | ⟨fault, fails⟩
  · rw [List.append_nil] at unlisted
    exact absurd ⟨entries, listing, distinct⟩ unlisted
  · have longest := longest_of_fails listing distinct fails
    refine ⟨front, entries, rest, fault, longest, fun _ _ _ => longest.unique, ?_, ?_⟩
    · rw [readList_of_listing listing distinct]
      exact readAfter_of_fails fails
    · exact fun other => ⟨fun failed => failed.unique fails, fun same => same ▸ fails⟩

/-- Two attributes with no blank between them, the second named by a quote, and
behind them the first name once more. -/
theorem readList_decided_by_longest_repeated :
    (¬∃ entries, Listing ("x='a\\'b'\"=\" \\\\\"".toList ++ "x=\"c\"".toList) entries ∧
      (entries.map Attribute.name).Nodup) ∧
    Longest ("x='a\\'b'\"=\" \\\\\"".toList ++ "x=\"c\"".toList) "x='a\\'b'\"=\" \\\\\"".toList
      [⟨"x".toList, "a'b".toList⟩, ⟨"\"".toList, " \\".toList⟩] "x=\"c\"".toList ∧
    readList ("x='a\\'b'\"=\" \\\\\"".toList ++ "x=\"c\"".toList) =
      .error (.duplicate "x".toList) := by
  have named : Assigns "x".toList "x=".toList :=
    @Assigns.intro _ [] [] ⟨by decide, List.all_eq_true.mp (by decide)⟩ (by simp) (by simp)
  have quoted : Assigns "\"".toList "\"=".toList :=
    @Assigns.intro _ [] [] ⟨by decide, List.all_eq_true.mp (by decide)⟩ (by simp) (by simp)
  have first : Spells "x='a\\'b'".toList ⟨"x".toList, "a'b".toList⟩ :=
    .intro named (by decide) (.plain (by decide) (by decide)
      (.escaped (Or.inl rfl) (.plain (by decide) (by decide) .done)))
  have second : Spells "\"=\" \\\\\"".toList ⟨"\"".toList, " \\".toList⟩ :=
    .intro quoted (by decide) (.plain (by decide) (by decide) (.escaped (Or.inr rfl) .done))
  have third : Spells "x=\"c\"".toList ⟨"x".toList, "c".toList⟩ :=
    .intro named (by decide) (.plain (by decide) (by decide) .done)
  have listing : Listing "x='a\\'b'\"=\" \\\\\"".toList
      [⟨"x".toList, "a'b".toList⟩, ⟨"\"".toList, " \\".toList⟩] :=
    @Listing.entry [] _ _ _ _ (by simp) first
      (@Listing.entry [] _ [] _ _ (by simp) second (.done (by simp)))
  have distinct : (([⟨"x".toList, "a'b".toList⟩, ⟨"\"".toList, " \\".toList⟩] :
      List Attribute).map Attribute.name).Nodup := by
    decide
  have fails : Fails [⟨"x".toList, "a'b".toList⟩, ⟨"\"".toList, " \\".toList⟩] "x=\"c\"".toList
      (.duplicate "x".toList) :=
    @Fails.duplicate _ _ [] _ third (by decide)
  have longest := longest_of_fails listing distinct fails
  have unlisted : ¬∃ entries,
      Listing ("x='a\\'b'\"=\" \\\\\"".toList ++ "x=\"c\"".toList) entries ∧
        (entries.map Attribute.name).Nodup := by
    rintro ⟨entries, all⟩
    have read := readList_eq_ok_iff.mpr all
    rw [readList_of_listing listing distinct, readAfter_of_fails fails] at read
    cases read
  obtain ⟨front, entries, rest, fault, _, only, failed, decided⟩ :=
    (readList_decided_by_longest _).2 unlisted
  obtain ⟨rfl, rfl, rfl⟩ := only _ _ _ longest
  obtain rfl := (decided _).mp fails
  exact ⟨unlisted, longest, failed⟩

end Attribute

end ChangeScript

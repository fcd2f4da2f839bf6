/-
Reading JSON texts.

A reader for JSON on one line, and the proof that it undoes the writing of every
value, whatever characters its strings and keys hold.  A number ends where no digit
follows, so a value is read back in front of anything that does not begin with one.
-/

import Mathlib.Data.List.Basic
import Mathlib.Tactic.SplitIfs
import ChangeScript.Json
import ChangeScript.Proofs.Attribute

set_option autoImplicit false

namespace ChangeScript

open Text

namespace Json

def unescape? (c : Char) : Option Char :=
  if c = 'b' then some '\x08'
  else if c = 'f' then some '\x0c'
  else if c = 'n' then some '\n'
  else if c = 'r' then some '\r'
  else if c = 't' then some '\t'
  else if c = '"' ∨ c = '\\' ∨ c = '/' then some c
  else none

def hexValue? (c : Char) : Option Nat :=
  (List.range 16).find? fun value => Nat.digitChar value = c

def codePoint? (digits : Text) : Option Char :=
  (digits.mapM hexValue?).map fun values =>
    Char.ofNat (values.foldl (fun number value => 16 * number + value) 0)

def readString : Text → Option (Text × Text)
  | [] => none
  | '\\' :: 'u' :: first :: second :: third :: fourth :: rest =>
      (codePoint? [first, second, third, fourth]).bind fun c =>
        (readString rest).map fun found => (c :: found.1, found.2)
  | '\\' :: short :: rest =>
      (unescape? short).bind fun c =>
        (readString rest).map fun found => (c :: found.1, found.2)
  | c :: rest =>
      if c = '"' then some ([], rest)
      else if c = '\\' then none
      else (readString rest).map fun found => (c :: found.1, found.2)

def readNumber (text : Text) : Option (Json × Text) :=
  let digits := text.takeWhile Char.isDigit
  if digits = [] then none
  else some (.number (Nat.ofDigitChars 10 digits 0), text.dropWhile Char.isDigit)

def readParts {Part : Type} (readPart : Text → Option (Part × Text)) (last : Char) :
    Nat → Text → Option (List Part × Text)
  | 0, _ => none
  | bound + 1, text =>
      match readPart text with
      | some (part, c :: rest) =>
          if c = ',' then
            (readParts readPart last bound rest).map fun found => (part :: found.1, found.2)
          else if c = last then some ([part], rest)
          else none
      | _ => none

def readList {Part : Type} (readPart : Text → Option (Part × Text)) (last : Char) (text : Text) :
    Option (List Part × Text) :=
  match [last].isPrefixOf? text with
  | some rest => some ([], rest)
  | none => readParts readPart last text.length text

def readMember (readPart : Text → Option (Json × Text)) : Text → Option ((Text × Json) × Text)
  | '"' :: text =>
      match readString text with
      | some (key, ':' :: rest) => (readPart rest).map fun found => ((key, found.1), found.2)
      | _ => none
  | _ => none

/-- The value at the front of a text, and what follows it.  Values inside each other
are read to a bounded depth. -/
def readValue : Nat → Text → Option (Json × Text)
  | bound + 1, c :: rest =>
      if c = '"' then (readString rest).map fun found => (.string found.1, found.2)
      else if c = '[' then
        (readList (readValue bound) ']' rest).map fun found => (.array found.1, found.2)
      else if c = '\x7b' then
        (readList (readMember (readValue bound)) '\x7d' rest).map fun found =>
          (.object found.1, found.2)
      else readNumber (c :: rest)
  | _, _ => none

def ofText? (text : Text) : Option Json :=
  match readValue text.length text with
  | some (value, []) => some value
  | _ => none

private theorem hexValue?_digitChar {value : Nat} (small : value < 16) :
    hexValue? (Nat.digitChar value) = some value := by
  have each : ∀ value < 16, hexValue? (Nat.digitChar value) = some value := by decide
  exact each value small

private theorem codePoint?_digits {c : Char} (control : c.toNat < 0x20) :
    codePoint? ['0', '0', Nat.digitChar (c.toNat / 16), Nat.digitChar (c.toNat % 16)] = some c := by
  have zero : hexValue? '0' = some 0 := by decide
  have high := hexValue?_digitChar (show c.toNat / 16 < 16 by omega)
  have low := hexValue?_digitChar (show c.toNat % 16 < 16 by omega)
  have code : 16 * (16 * (16 * (16 * 0 + 0) + 0) + c.toNat / 16) + c.toNat % 16 = c.toNat := by
    omega
  simp only [codePoint?, List.mapM_cons, List.mapM_nil, zero, high, low, Option.bind_eq_bind,
    Option.bind_some, Option.pure_def, Option.map_some, List.foldl_cons, List.foldl_nil, code,
    Char.ofNat_toNat]

private theorem readString_short {short c : Char} (other : short ≠ 'u')
    (stands : unescape? short = some c) (rest : Text) :
    readString ('\\' :: short :: rest) =
      (readString rest).map fun found => (c :: found.1, found.2) := by
  rw [readString, stands]
  · rfl
  · rintro _ _ _ _ _ rfl
    exact absurd rfl other

private theorem readString_plain {c : Char} (notQuote : c ≠ '"') (notBackslash : c ≠ '\\')
    (rest : Text) :
    readString (c :: rest) = (readString rest).map fun found => (c :: found.1, found.2) := by
  rw [readString, if_neg notQuote, if_neg notBackslash]
  · intro _ _ _ _ _ same
    exact absurd same notBackslash
  · intro _ _ same
    exact absurd same notBackslash

/-- How a character is written: with a short escape, with its code, or as it is. -/
private theorem escapeChar_cases (c : Char) :
    (∃ short, short ≠ 'u' ∧ unescape? short = some c ∧ escapeChar c = ['\\', short]) ∨
    (c.toNat < 0x20 ∧ escapeChar c =
      ['\\', 'u', '0', '0', Nat.digitChar (c.toNat / 16), Nat.digitChar (c.toNat % 16)]) ∨
    (c ≠ '"' ∧ c ≠ '\\' ∧ escapeChar c = [c]) := by
  unfold escapeChar
  split_ifs with quote backslash back form feed home tab control
  · exact .inl ⟨'"', by decide, by rw [quote]; rfl, rfl⟩
  · exact .inl ⟨'\\', by decide, by rw [backslash]; rfl, rfl⟩
  · exact .inl ⟨'b', by decide, by rw [back]; rfl, rfl⟩
  · exact .inl ⟨'f', by decide, by rw [form]; rfl, rfl⟩
  · exact .inl ⟨'n', by decide, by rw [feed]; rfl, rfl⟩
  · exact .inl ⟨'r', by decide, by rw [home]; rfl, rfl⟩
  · exact .inl ⟨'t', by decide, by rw [tab]; rfl, rfl⟩
  · exact .inr (.inl ⟨control, rfl⟩)
  · exact .inr (.inr ⟨quote, backslash, rfl⟩)

theorem readString_escapeChar (c : Char) (rest : Text) :
    readString (escapeChar c ++ rest) =
      (readString rest).map fun found => (c :: found.1, found.2) := by
  rcases escapeChar_cases c with ⟨short, other, stands, written⟩ | ⟨control, written⟩ |
    ⟨notQuote, notBackslash, written⟩
  · rw [written]
    exact readString_short other stands rest
  · rw [written]
    simp only [List.cons_append, List.nil_append, readString, codePoint?_digits control,
      Option.bind_some]
  · rw [written]
    exact readString_plain notQuote notBackslash rest

theorem readString_flatMap_escapeChar (text rest : Text) :
    readString (text.flatMap escapeChar ++ '"' :: rest) = some (text, rest) := by
  induction text with
  | nil => rfl
  | cons c text ih =>
      rw [List.flatMap_cons, List.append_assoc, readString_escapeChar, ih]
      rfl

theorem quote_append (text rest : Text) :
    quote text ++ rest = '"' :: (text.flatMap escapeChar ++ '"' :: rest) := by
  simp only [quote, List.cons_append, List.append_assoc, List.nil_append]

theorem readNumber_ofNat (number : Nat) {rest : Text} (stops : Stops Char.isDigit rest) :
    readNumber (ofNat number ++ rest) = some (.number number, rest) := by
  have digits : ∀ c ∈ ofNat number, c.isDigit = true := fun c member =>
    Nat.isDigit_of_mem_toDigits (by decide) (by decide) member
  have present : ofNat number ≠ [] := Nat.toDigits_ne_nil
  have value : Nat.ofDigitChars 10 (ofNat number) 0 = number := Nat.ofDigitChars_ten_toDigits
  simp only [readNumber, takeWhile_append_of_stops digits stops,
    dropWhile_append_of_stops digits stops, if_neg present, value]

/-- The text is read as the given part, in front of anything but a digit. -/
def Reads {Part : Type} (readPart : Text → Option (Part × Text)) (text : Text) (part : Part) :
    Prop :=
  ∀ rest, Stops Char.isDigit rest → readPart (text ++ rest) = some (part, rest)

private theorem intercalate_append_cons_cons (first second : Text) (more : List Text) (rest : Text) :
    List.intercalate [','] (first :: second :: more) ++ rest =
      first ++ ',' :: (List.intercalate [','] (second :: more) ++ rest) := by
  simp only [List.intercalate_cons_cons, List.append_assoc, List.cons_append, List.nil_append]

private theorem length_le_length_intercalate (parts : List Text) :
    parts.length ≤ (List.intercalate [','] parts).length + 1 := by
  induction parts with
  | nil => exact Nat.zero_le _
  | cons first parts ih =>
      cases parts with
      | nil => exact Nat.le_add_left _ _
      | cons second parts =>
          simp only [List.intercalate_cons_cons, List.length_append, List.length_cons,
            List.length_nil] at ih ⊢
          omega

theorem length_le_of_mem_intercalate {part : Text} {parts : List Text} (member : part ∈ parts) :
    part.length ≤ (List.intercalate [','] parts).length := by
  induction parts with
  | nil => cases member
  | cons first parts ih =>
      cases parts with
      | nil =>
          rw [List.intercalate_singleton]
          exact Nat.le_of_eq (congrArg List.length (List.mem_singleton.mp member))
      | cons second parts =>
          simp only [List.intercalate_cons_cons, List.length_append]
          rcases List.mem_cons.mp member with rfl | later
          · omega
          · have inside := ih later
            omega

section Lists

variable {Part : Type} {readPart : Text → Option (Part × Text)} {write : Part → Text} {last : Char}

theorem readParts_intercalate (other : last ≠ ',') (plain : last.isDigit = false) {parts : List Part}
    (present : parts ≠ []) (reads : ∀ part ∈ parts, Reads readPart (write part) part)
    {bound : Nat} (enough : parts.length ≤ bound) (rest : Text) :
    readParts readPart last bound (List.intercalate [','] (parts.map write) ++ last :: rest) =
      some (parts, rest) := by
  induction parts generalizing bound with
  | nil => exact absurd rfl present
  | cons first parts ih =>
      obtain ⟨bound, rfl⟩ := Nat.exists_eq_add_one_of_ne_zero (Nat.ne_zero_of_lt enough)
      have head := reads first List.mem_cons_self
      cases parts with
      | nil =>
          have read := head (last :: rest) (stops_cons plain rest)
          simp only [List.map_cons, List.map_nil, List.intercalate_singleton, readParts, read,
            if_neg other, if_pos]
      | cons second parts =>
          have tail := ih (List.cons_ne_nil second parts)
            (fun part member => reads part (List.mem_cons_of_mem first member))
            (Nat.le_of_succ_le_succ enough)
          have read := head (',' :: (List.intercalate [','] ((second :: parts).map write) ++ last :: rest))
            (stops_cons (by decide) _)
          rw [List.map_cons, List.map_cons, intercalate_append_cons_cons, ← List.map_cons, readParts, read]
          simp only [if_pos, tail, Option.map_some]

theorem readList_intercalate (other : last ≠ ',') (plain : last.isDigit = false) {parts : List Part}
    (begins : ∀ part ∈ parts, ∀ rest, [last].isPrefixOf? (write part ++ rest) = none)
    (reads : ∀ part ∈ parts, Reads readPart (write part) part) (rest : Text) :
    readList readPart last (List.intercalate [','] (parts.map write) ++ last :: rest) =
      some (parts, rest) := by
  cases parts with
  | nil =>
      have closed : [last].isPrefixOf? (last :: rest) = some rest :=
        List.isPrefixOf?_eq_some_iff_append_eq.mpr rfl
      simp only [readList, List.map_nil, List.intercalate_nil, List.nil_append, closed]
  | cons first parts =>
      have opened : [last].isPrefixOf?
          (List.intercalate [','] ((first :: parts).map write) ++ last :: rest) = none := by
        have head := begins first List.mem_cons_self
        cases parts with
        | nil =>
            rw [List.map_singleton, List.intercalate_singleton]
            exact head _
        | cons second parts =>
            rw [List.map_cons, List.map_cons, intercalate_append_cons_cons]
            exact head _
      have enough : (first :: parts).length ≤
          (List.intercalate [','] ((first :: parts).map write) ++ last :: rest).length := by
        have count := length_le_length_intercalate ((first :: parts).map write)
        rw [List.length_map] at count
        rw [List.length_append, List.length_cons (a := last)]
        omega
      simp only [readList, opened]
      exact readParts_intercalate other plain (List.cons_ne_nil first parts) reads enough rest

end Lists

/-! ### Values -/

theorem compactItems_eq_map (items : List Json) : compactItems items = items.map compact := by
  induction items with
  | nil => rfl
  | cons item items ih => rw [compactItems, ih, List.map_cons]

def compactMember (member : Text × Json) : Text := quote member.1 ++ ':' :: member.2.compact

theorem compactMembers_eq_map (members : List (Text × Json)) :
    compactMembers members = members.map compactMember := by
  induction members with
  | nil => rfl
  | cons member members ih => rw [compactMembers, ih, List.map_cons, compactMember]

private theorem exists_digit_ofNat (number : Nat) :
    ∃ c rest, c.isDigit = true ∧ ofNat number = c :: rest := by
  obtain ⟨c, rest, shape⟩ :=
    List.exists_cons_of_ne_nil (Nat.toDigits_ne_nil (n := number) (b := 10))
  have member : c ∈ Nat.toDigits 10 number := by
    rw [shape]
    exact List.mem_cons_self
  exact ⟨c, rest, Nat.isDigit_of_mem_toDigits (by decide) (by decide) member, shape⟩

private theorem isPrefixOf?_compact (value : Json) (rest : Text) :
    [']'].isPrefixOf? (value.compact ++ rest) = none := by
  cases value with
  | number value =>
      obtain ⟨c, digits, digit, shape⟩ := exists_digit_ofNat value
      have other : ']' ≠ c := by rintro rfl; cases digit
      rw [compact, shape, List.cons_append, List.isPrefixOf?, if_neg (by rwa [beq_iff_eq])]
  | string text => rw [compact, quote_append]; rfl
  | array items => rfl
  | object members => rfl

private theorem readValue_digit {bound : Nat} {c : Char} (digit : c.isDigit = true) (rest : Text) :
    readValue (bound + 1) (c :: rest) = readNumber (c :: rest) := by
  have notQuote : c ≠ '"' := by rintro rfl; cases digit
  have notBracket : c ≠ '[' := by rintro rfl; cases digit
  have notBrace : c ≠ '\x7b' := by rintro rfl; cases digit
  rw [readValue, if_neg notQuote, if_neg notBracket, if_neg notBrace]

theorem reads_number (value bound : Nat) :
    Reads (readValue (bound + 1)) (ofNat value) (.number value) := by
  intro rest stops
  obtain ⟨c, digits, digit, shape⟩ := exists_digit_ofNat value
  rw [← readNumber_ofNat value stops, shape]
  exact readValue_digit digit (digits ++ rest)

theorem reads_string (text : Text) (bound : Nat) :
    Reads (readValue (bound + 1)) (quote text) (.string text) := by
  intro rest _stops
  rw [quote_append, readValue, if_pos rfl, readString_flatMap_escapeChar]
  rfl

theorem reads_array {items : List Json} {bound : Nat}
    (reads : ∀ item ∈ items, Reads (readValue bound) item.compact item) :
    Reads (readValue (bound + 1)) (Json.array items).compact (.array items) := by
  intro rest _stops
  have read := readList_intercalate (by decide) (by decide)
    (fun item _ => isPrefixOf?_compact item) reads rest
  have shape : (Json.array items).compact ++ rest =
      '[' :: (List.intercalate [','] (items.map compact) ++ ']' :: rest) := by
    simp only [compact, compactItems_eq_map, List.cons_append, List.append_assoc, List.nil_append]
  rw [shape, readValue, if_neg (by decide), if_pos rfl, read]
  rfl

theorem reads_member {key : Text} {value : Json} {bound : Nat}
    (reads : Reads (readValue bound) value.compact value) :
    Reads (readMember (readValue bound)) (compactMember (key, value)) (key, value) := by
  intro rest stops
  rw [compactMember, List.append_assoc, quote_append, List.cons_append, readMember,
    readString_flatMap_escapeChar]
  simp only [reads rest stops, Option.map_some]

theorem reads_object {members : List (Text × Json)} {bound : Nat}
    (reads : ∀ member ∈ members, Reads (readValue bound) member.2.compact member.2) :
    Reads (readValue (bound + 1)) (Json.object members).compact (.object members) := by
  intro rest _stops
  have begins : ∀ member ∈ members, ∀ rest,
      ['\x7d'].isPrefixOf? (compactMember member ++ rest) = none := by
    intro member _ rest
    rw [compactMember, List.append_assoc, quote_append]
    rfl
  have read := readList_intercalate (by decide) (by decide) begins
    (fun member inside => reads_member (reads member inside)) rest
  have shape : (Json.object members).compact ++ rest =
      '\x7b' :: (List.intercalate [','] (members.map compactMember) ++ '\x7d' :: rest) := by
    simp only [compact, compactMembers_eq_map, List.cons_append, List.append_assoc,
      List.nil_append]
  rw [shape, readValue, if_neg (by decide), if_neg (by decide), if_pos rfl, read]
  rfl

mutual
/-- A value is read back if the bound is not below the length of its text. -/
theorem reads_compact : (value : Json) → (bound : Nat) → value.compact.length ≤ bound + 1 →
    Reads (readValue (bound + 1)) value.compact value
  | .number value, bound, _ => by
      rw [compact]
      exact reads_number value bound
  | .string text, bound, _ => by
      rw [compact]
      exact reads_string text bound
  | .array items, bound, enough => by
      rw [compact, compactItems_eq_map] at enough
      simp only [List.length_cons, List.length_append, List.length_nil] at enough
      obtain ⟨bound, rfl⟩ := Nat.exists_eq_add_one_of_ne_zero (show bound ≠ 0 by omega)
      apply reads_array
      intro item member
      have inside := length_le_of_mem_intercalate (List.mem_map_of_mem (f := compact) member)
      exact reads_compact_items items item member bound (by omega)
  | .object members, bound, enough => by
      rw [compact, compactMembers_eq_map] at enough
      simp only [List.length_cons, List.length_append, List.length_nil] at enough
      obtain ⟨bound, rfl⟩ := Nat.exists_eq_add_one_of_ne_zero (show bound ≠ 0 by omega)
      apply reads_object
      intro member inside
      have within := length_le_of_mem_intercalate (List.mem_map_of_mem (f := compactMember) inside)
      simp only [compactMember, List.length_append, List.length_cons] at within
      exact reads_compact_members members member inside bound (by omega)

theorem reads_compact_items : (items : List Json) → ∀ item ∈ items, (bound : Nat) →
    item.compact.length ≤ bound + 1 → Reads (readValue (bound + 1)) item.compact item
  | [] => fun _ member => absurd member List.not_mem_nil
  | first :: items =>
      List.forall_mem_cons.mpr ⟨reads_compact first, reads_compact_items items⟩

theorem reads_compact_members : (members : List (Text × Json)) → ∀ member ∈ members,
    (bound : Nat) → member.2.compact.length ≤ bound + 1 →
    Reads (readValue (bound + 1)) member.2.compact member.2
  | [] => fun _ member => absurd member List.not_mem_nil
  | (_, first) :: members =>
      List.forall_mem_cons.mpr ⟨reads_compact first, reads_compact_members members⟩
end

/-- Reading undoes the writing of a value on one line. -/
theorem ofText?_compact (value : Json) : ofText? value.compact = some value := by
  have present : value.compact.length ≠ 0 := by
    cases value with
    | number value => exact Nat.ne_of_gt Nat.length_toDigits_pos
    | string text => exact Nat.succ_ne_zero _
    | array items => exact Nat.succ_ne_zero _
    | object members => exact Nat.succ_ne_zero _
  obtain ⟨bound, length⟩ := Nat.exists_eq_add_one_of_ne_zero present
  have read := reads_compact value bound (Nat.le_of_eq length) [] (stops_nil _)
  rw [List.append_nil] at read
  simp only [ofText?, length, read]

end Json

end ChangeScript

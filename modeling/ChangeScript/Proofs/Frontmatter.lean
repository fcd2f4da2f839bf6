/-
Fixtures that are written and taken apart.

A fixture is written as a line of three dashes, the lines of its description, a
second line of dashes and the script.  The description and the script come apart
again, with either line end and behind any byte order marks, exactly when the
description has a line.  The line end of the first dashes is dropped before the
second ones are looked for behind a line feed, so they are not found when nothing
stands between them.  None of this depends on how a description is decoded.
-/

import Mathlib.Data.List.Basic
import Mathlib.Data.List.TakeWhile
import ChangeScript.Fixture.Verdict
import ChangeScript.Proofs.Attribute
import ChangeScript.Proofs.Lines

set_option autoImplicit false

namespace ChangeScript

open Text

namespace Text

private theorem dropPrefix?_eq_isPrefixOf? (part text : Text) :
    text.dropPrefix? part = part.isPrefixOf? text := by
  apply Option.ext
  intro behind
  rw [List.dropPrefix?_eq_some_iff, List.isPrefixOf?_eq_some_iff_append_eq]
  constructor
  · rintro ⟨lead, shape, same⟩
    rw [shape, eq_of_beq same]
  · intro shape
    exact ⟨part, shape.symm, beq_self_eq_true part⟩

private theorem dropInfix?_go_eq_map (part text passed : Text) :
    List.dropInfix?.go part text passed =
      (splitAtFirst? part text).map fun found => (passed.reverse ++ found.1, found.2) := by
  induction text generalizing passed with
  | nil => cases part <;> simp [List.dropInfix?.go, splitAtFirst?, List.isPrefixOf?]
  | cons c rest ih =>
      rw [List.dropInfix?.go, splitAtFirst?, dropPrefix?_eq_isPrefixOf?]
      cases part.isPrefixOf? (c :: rest) with
      | some behind => simp
      | none => simp [ih, Function.comp_def]

/-- The leftmost occurrence is the one that `List.dropInfix?` takes out. -/
theorem splitAtFirst?_eq_dropInfix? (part text : Text) :
    splitAtFirst? part text = text.dropInfix? part := by
  rw [List.dropInfix?, dropInfix?_go_eq_map]
  simp

theorem splitAtFirst?_append_of_notMem {c : Char} {part line : Text} (absent : c ∉ line)
    (rest : Text) :
    splitAtFirst? (c :: part) (line ++ rest) =
      (splitAtFirst? (c :: part) rest).map fun found => (line ++ found.1, found.2) := by
  induction line with
  | nil => simp
  | cons d line ih =>
      have other : c ≠ d := fun same => absent (by rw [same]; exact List.mem_cons_self)
      have later : c ∉ line := fun member => absent (List.mem_cons_of_mem d member)
      rw [List.cons_append, splitAtFirst?, List.isPrefixOf?, if_neg (by rwa [beq_iff_eq])]
      simp only [ih later, Option.map_map]
      rfl

theorem splitAtFirst?_append_self (part rest : Text) :
    splitAtFirst? part (part ++ rest) = some ([], rest) := by
  rw [splitAtFirst?_eq_dropInfix?, List.dropInfix?_eq_some_iff]
  exact ⟨⟨part, rfl, beq_self_eq_true part⟩, fun _ _ _ _ _ => Nat.zero_le _⟩

theorem splitAtFirst?_cons_of_not_lead {c : Char} {part rest : Text}
    (apart : ¬part <+: c :: rest) :
    splitAtFirst? part (c :: rest) =
      (splitAtFirst? part rest).map fun found => (c :: found.1, found.2) := by
  have missing : part.isPrefixOf? (c :: rest) = none := by
    cases found : part.isPrefixOf? (c :: rest) with
    | none => rfl
    | some behind => exact absurd ⟨behind, List.append_eq_of_isPrefixOf?_eq_some found⟩ apart
  rw [splitAtFirst?, missing]

theorem not_prefix_append_cons {lead line : Text} {c : Char} (apart : ¬lead <+: line)
    (absent : c ∉ lead) (rest : Text) : ¬lead <+: line ++ c :: rest := by
  intro leads
  by_cases short : lead.length ≤ line.length
  · exact apart (List.prefix_of_prefix_length_le leads (List.prefix_append _ _) short)
  · have whole : line ++ [c] <+: line ++ c :: rest := ⟨rest, (List.append_cons line c rest).symm⟩
    have inside : line ++ [c] <+: lead := by
      apply List.prefix_of_prefix_length_le whole leads
      rw [List.length_append, List.length_singleton]
      omega
    exact absent (inside.subset (List.mem_append_right _ (List.mem_singleton.mpr rfl)))

theorem trimEnd_append {drop : Char → Bool} {text tail : Text}
    (kept : ∀ c, text.getLast? = some c → drop c = false) (dropped : ∀ c ∈ tail, drop c = true) :
    trimEnd drop (text ++ tail) = text := by
  have stops : Stops drop text.reverse := by
    intro c head
    rw [List.head?_reverse] at head
    exact kept c head
  have trimmed : ∀ c ∈ tail.reverse, drop c = true := fun c member =>
    dropped c (List.mem_reverse.mp member)
  rw [trimEnd, List.reverse_append, dropWhile_append_of_stops trimmed stops, List.reverse_reverse]

theorem trimEnd_ne_nil {drop : Char → Bool} {c : Char} {text : Text} (kept : drop c = false)
    (member : c ∈ text) : trimEnd drop text ≠ [] := by
  intro empty
  have dropped := List.dropWhile_eq_nil_iff.mp (List.reverse_eq_nil_iff.mp empty)
  rw [dropped c (List.mem_reverse.mpr member)] at kept
  cases kept

end Text

namespace Fixture

/-! ### Written fixtures -/

inductive LineEnd where
  | feed
  | returnFeed
deriving DecidableEq, Repr

def LineEnd.back : LineEnd → Text
  | .feed => []
  | .returnFeed => ['\r']

def LineEnd.text (ending : LineEnd) : Text := ending.back ++ ['\n']

def dashes : Text := "---".toList

def closed (ending : LineEnd) (source : Text) : Text := dashes ++ (ending.text ++ source)

/-- A fixture as it is written, behind the given number of byte order marks. -/
def written (marks : Nat) (ending : LineEnd) (front : List Text) (source : Text) : Text :=
  List.replicate marks '\uFEFF' ++ (dashes ++ (ending.text ++
    (front.flatMap (fun line => line ++ ending.text) ++ closed ending source)))

/-- A line of a description: without line ends, and not taken for dashes. -/
structure Plain (line : Text) : Prop where
  unbroken : Unbroken line
  apart : ¬dashes <+: line

theorem skipLineEnd_append (ending : LineEnd) (rest : Text) :
    skipLineEnd (ending.text ++ rest) = rest := by
  cases ending with
  | feed => rfl
  | returnFeed => rfl

/-- The marks, the first dashes and their line end are dropped before the second
dashes are looked for. -/
theorem split_written (marks : Nat) (ending : LineEnd) (front : List Text) (source : Text) :
    split (written marks ending front source) =
      match splitAtFirst? ('\n' :: dashes)
          (front.flatMap (fun line => line ++ ending.text) ++ closed ending source) with
      | none => .error .missingClosing
      | some (description, behind) =>
          .ok (trimEnd (fun c => c = '\r') description, skipLineEnd behind) := by
  have marked : ∀ c ∈ List.replicate marks '\uFEFF', decide (c = '\uFEFF') = true := by
    intro c member
    exact decide_eq_true (List.eq_of_mem_replicate member)
  have opened (rest : Text) :
      "---".toList.isPrefixOf? ((List.replicate marks '\uFEFF' ++ (dashes ++ rest)).dropWhile
        fun c => c = '\uFEFF') = some rest := by
    have stops : Stops (fun c => c = '\uFEFF') (dashes ++ rest) := stops_cons (by decide) _
    rw [dropWhile_append_of_stops marked stops]
    exact List.isPrefixOf?_eq_some_iff_append_eq.mpr rfl
  simp only [split, written, opened, skipLineEnd_append]
  rfl

theorem Plain.feed_notMem {line : Text} (plain : Plain line) (ending : LineEnd) :
    '\n' ∉ line ++ ending.back := by
  intro member
  rcases List.mem_append.mp member with inside | behind
  · exact absurd (plain.unbroken '\n' inside) (by decide)
  · cases ending with
    | feed => cases behind
    | returnFeed => exact absurd behind (by decide)

theorem Plain.apart_append {line : Text} (plain : Plain line) (ending : LineEnd) (rest : Text) :
    ¬dashes <+: line ++ (ending.text ++ rest) := by
  cases ending with
  | feed => exact not_prefix_append_cons plain.apart (by decide) rest
  | returnFeed => exact not_prefix_append_cons plain.apart (by decide) ('\n' :: rest)

theorem splitAtFirst?_description (ending : LineEnd) {front : List Text} (present : front ≠ [])
    (plain : ∀ line ∈ front, Plain line) (behind : Text) :
    splitAtFirst? ('\n' :: dashes)
        (front.flatMap (fun line => line ++ ending.text) ++ (dashes ++ behind)) =
      some (List.intercalate ending.text front ++ ending.back, behind) := by
  induction front with
  | nil => exact absurd rfl present
  | cons first rest ih =>
      have absent := (plain first List.mem_cons_self).feed_notMem ending
      have shape (tail : Text) :
          first ++ ending.text ++ tail = first ++ ending.back ++ '\n' :: tail := by
        simp only [LineEnd.text, List.append_assoc, List.singleton_append]
      rw [List.flatMap_cons, List.append_assoc, shape, splitAtFirst?_append_of_notMem absent]
      cases rest with
      | nil =>
          have found : splitAtFirst? ('\n' :: dashes) ('\n' :: (dashes ++ behind)) =
              some ([], behind) := splitAtFirst?_append_self ('\n' :: dashes) behind
          rw [List.flatMap_nil, List.nil_append, found, Option.map_some, List.append_nil,
            List.intercalate_singleton]
      | cons second rest =>
          have later : ∀ line ∈ second :: rest, Plain line := fun line member =>
            plain line (List.mem_cons_of_mem first member)
          have passed : ¬('\n' :: dashes) <+: '\n' ::
              ((second :: rest).flatMap (fun line => line ++ ending.text) ++
                (dashes ++ behind)) := by
            rw [List.prefix_cons_inj, List.flatMap_cons, List.append_assoc, List.append_assoc]
            exact (later second List.mem_cons_self).apart_append ending _
          rw [splitAtFirst?_cons_of_not_lead passed, ih (List.cons_ne_nil second rest) later,
            Option.map_some, Option.map_some, List.intercalate_cons_cons, shape]
          simp only [List.append_assoc, List.cons_append]

theorem getLast?_intercalate_text (ending : LineEnd) {front : List Text}
    (unbroken : ∀ line ∈ front, Unbroken line) {c : Char}
    (last : (List.intercalate ending.text front).getLast? = some c) : c ≠ '\r' := by
  induction front with
  | nil => cases last
  | cons first rest ih =>
      cases rest with
      | nil =>
          rintro rfl
          rw [List.intercalate_singleton] at last
          have inside := List.mem_of_getLast? last
          exact absurd (unbroken first List.mem_cons_self '\r' inside) (by decide)
      | cons second rest =>
          rw [List.intercalate_cons_cons, List.getLast?_append, Option.or_eq_some_iff] at last
          rcases last with later | ⟨_empty, before⟩
          · exact ih (fun line member => unbroken line (List.mem_cons_of_mem first member)) later
          · rw [LineEnd.text, ← List.append_assoc, List.getLast?_concat] at before
            rw [← Option.some.inj before]
            decide

theorem trimEnd_intercalate_text (ending : LineEnd) {front : List Text}
    (unbroken : ∀ line ∈ front, Unbroken line) :
    trimEnd (fun c => c = '\r') (List.intercalate ending.text front ++ ending.back) =
      List.intercalate ending.text front := by
  apply trimEnd_append
  · intro c last
    exact decide_eq_false (getLast?_intercalate_text ending unbroken last)
  · intro c member
    cases ending with
    | feed => cases member
    | returnFeed => exact decide_eq_true (List.mem_singleton.mp member)

theorem split_written_of_ne_nil (marks : Nat) (ending : LineEnd) {front : List Text}
    (present : front ≠ []) (plain : ∀ line ∈ front, Plain line) (source : Text) :
    split (written marks ending front source) = .ok (List.intercalate ending.text front, source) := by
  have unbroken : ∀ line ∈ front, Unbroken line := fun line member => (plain line member).unbroken
  rw [split_written, closed, splitAtFirst?_description ending present plain]
  simp only [trimEnd_intercalate_text ending unbroken, skipLineEnd_append]

/-- Without a description, the second dashes are taken for its first line. -/
theorem split_written_nil_ne (marks : Nat) (ending : LineEnd) (source : Text) :
    split (written marks ending [] source) ≠ .ok ([], source) := by
  have shape : closed ending source = ['-'] ++ ("--".toList ++ (ending.text ++ source)) := rfl
  have noFeed : '\n' ∉ ['-'] := by decide
  rw [split_written, List.flatMap_nil, List.nil_append, shape,
    splitAtFirst?_append_of_notMem noFeed]
  cases splitAtFirst? ('\n' :: dashes) ("--".toList ++ (ending.text ++ source)) with
  | none =>
      intro same
      cases same
  | some found =>
      intro same
      have empty := congrArg Prod.fst (Except.ok.inj same)
      exact trimEnd_ne_nil (by decide) List.mem_cons_self empty

/-- A written fixture comes apart into its description and its script exactly when
the description has a line.  Whatever decodes descriptions is then given exactly this
one, and the script is read with nothing before it: its lines count from its own first
one. -/
theorem written_comes_apart_iff (decode : Text → Option Config) (marks : Nat)
    (ending : LineEnd) {front : List Text} (plain : ∀ line ∈ front, Plain line) (source : Text) :
    (split (written marks ending front source) = .ok (List.intercalate ending.text front, source) ↔
      front ≠ []) ∧
    (front ≠ [] →
      (∀ config, decode (List.intercalate ending.text front) = some config →
        ∃ fixture, readWith decode (written marks ending front source) = .ok fixture ∧
          fixture.config = config ∧ fixture.source = source ∧
          fixture.mismatch? = config.mismatch? (review config.delimiters source)) ∧
      (decode (List.intercalate ending.text front) = none →
        readWith decode (written marks ending front source) = .error .invalidConfig)) := by
  refine ⟨⟨?_, fun present => split_written_of_ne_nil marks ending present plain source⟩, ?_⟩
  · rintro whole rfl
    exact split_written_nil_ne marks ending source whole
  · intro present
    have apart := split_written_of_ne_nil marks ending present plain source
    constructor
    · intro config decoded
      refine ⟨⟨config, source⟩, ?_, rfl, rfl, rfl⟩
      simp only [readWith, apart, decoded]
    · intro undecoded
      simp only [readWith, apart, undecoded]

/-- Behind a byte order mark and with carriage returns, a script that begins with an
empty line and a line of dashes is handed on whole. -/
theorem written_comes_apart_behind_mark :
    split "\uFEFF---\r\nexpect_operations = 0\r\n\r\n---\r\n\n---\nls".toList =
      .ok ("expect_operations = 0\r\n".toList, "\n---\nls".toList) ∧
    ∃ fixture, Fixture.read
        "\uFEFF---\r\nexpect_operations = 0\r\n\r\n---\r\n\n---\nls".toList = .ok fixture ∧
      fixture.config = ⟨none, .standard, none, some 0, none⟩ ∧
      fixture.source = "\n---\nls".toList ∧
      fixture.mismatch? = none := by
  have plain : ∀ line ∈ ["expect_operations = 0".toList, []], Plain line := by
    intro line member
    rcases List.mem_cons.mp member with rfl | later
    · exact ⟨by decide, by decide⟩
    · rw [List.mem_singleton.mp later]
      exact ⟨by decide, by decide⟩
  have present : ["expect_operations = 0".toList, []] ≠ [] := List.cons_ne_nil _ _
  have decoded : Config.ofToml? "expect_operations = 0\r\n".toList =
      some ⟨none, .standard, none, some 0, none⟩ := by decide +kernel
  have joined : List.intercalate LineEnd.returnFeed.text ["expect_operations = 0".toList, []] =
      "expect_operations = 0\r\n".toList := by decide +kernel
  have shape : written 1 .returnFeed ["expect_operations = 0".toList, []] "\n---\nls".toList =
      "\uFEFF---\r\nexpect_operations = 0\r\n\r\n---\r\n\n---\nls".toList := by decide +kernel
  have apart := written_comes_apart_iff Config.ofToml? 1 .returnFeed plain "\n---\nls".toList
  rw [shape, joined] at apart
  obtain ⟨fixture, taken, config, source, verdict⟩ := (apart.2 present).1 _ decoded
  exact ⟨apart.1.mpr present, fixture, taken, config, source, verdict.trans (by decide +kernel)⟩

/-- Nothing between the dashes is a description that says nothing, yet the fixture is
refused. -/
theorem written_without_description_refused :
    Config.ofToml? (List.intercalate LineEnd.feed.text []) =
      some ⟨none, .standard, none, none, none⟩ ∧
    Fixture.read (written 0 .feed [] "<---RUN--->\nls\n<---END--->\n".toList) =
      .error .missingClosing := by
  decide +kernel

end Fixture

end ChangeScript

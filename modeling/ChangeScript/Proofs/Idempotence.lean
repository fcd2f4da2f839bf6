/-
Formatting a formatted script.

Operations that are printed where an earlier print put them need the same empty
lines as before, so a formatted script is formatted as itself, and what is found
wrong with it is what was found wrong before.  The line feed that ends the output
is one more empty line, which is noise.
-/

import ChangeScript.Command
import ChangeScript.Proofs.Renumbering
import ChangeScript.Proofs.RoundTrip

set_option autoImplicit false

namespace ChangeScript

open Text Grammar

variable {delimiters : Delimiters}

namespace Operation

theorem openingLines_placed (used : Nat) (kind : Kind) (header : Header) :
    openingLines delimiters used kind (header.placed used) =
      openingLines delimiters used kind header := by
  have padding : max header.line (used + 1) - 1 - used = header.line - 1 - used := by omega
  simp only [openingLines, Header.placed, padding]

mutual
theorem lines_placed (used : Nat) :
    (operation : Operation) →
    (operation.placed delimiters used).lines delimiters used = operation.lines delimiters used
  | .write header content => by
      rw [placed, lines, lines, openingLines_placed]
  | .run header content => by
      rw [placed, lines, lines, openingLines_placed]
  | .search header pattern upTo replacement => by
      rw [placed, lines, lines, openingLines_placed]
  | .tasks header operations => by
      rw [placed, lines, lines, openingLines_placed, linesAll_placedAll _ operations]

/-- Each operation is printed behind as many lines as before, so it needs as
many empty lines as before. -/
theorem linesAll_placedAll (used : Nat) :
    (operations : List Operation) →
    linesAll delimiters used (placedAll delimiters used operations) =
      linesAll delimiters used operations
  | [] => rfl
  | first :: rest => by
      rw [placedAll, linesAll, linesAll, lines_placed used first, linesAll_placedAll _ rest]
end

end Operation

theorem print_placedAll (operations : List Operation) :
    print delimiters (Operation.placedAll delimiters 0 operations) = print delimiters operations := by
  rw [print, print, Operation.linesAll_placedAll]

private theorem parse_nil (present : delimiters.opening ≠ []) : parse delimiters [] = .ok [] :=
  parseLines_of_document (Sequence.singleNoise fun lead => present (List.prefix_nil.mp lead))

theorem parse_print_feed {text : Text} {operations : List Operation}
    (present : delimiters.opening ≠ []) (parsed : parse delimiters text = .ok operations) :
    parse delimiters (print delimiters operations ++ ['\n']) =
      .ok (Operation.placedAll delimiters 0 operations) := by
  obtain ⟨unbroken, each⟩ := printable_of_parse parsed
  have noReturn := Operation.return_not_mem_print unbroken each
  have whole : (print delimiters operations).getLast? ≠ some '\r' :=
    fun last => noReturn (List.mem_of_getLast? last)
  rw [parse_join (parse_print_of_parse present parsed) whole [], parse_nil present]
  exact congrArg Except.ok (List.append_nil _)

/-! ### Findings up to their lines -/

/-- What a finding says without the numbers of lines: the kind of the operation,
the message, the attribute, and whether a tasks block is around it. -/
def Finding.gist (finding : Finding) : Kind × Text × Option Text × Bool :=
  (finding.kind, finding.message, finding.field, finding.parent.isSome)

private theorem map_gist_report (violations : List Violation) (line : Nat) (kind : Kind)
    (parent : Option Nat) :
    (violations.map fun violation => violation.report line kind parent).map Finding.gist =
      violations.map fun violation =>
        (kind, violation.message, violation.field, parent.isSome) := by
  rw [List.map_map]
  rfl

namespace Operation

mutual
theorem map_gist_findings {parent other : Option Nat} (same : parent.isSome = other.isSome) :
    (operation : Operation) →
    (operation.withoutLines.findings parent).map Finding.gist =
      (operation.findings other).map Finding.gist
  | .write header content => by
      rw [withoutLines, findings, findings, map_gist_report, map_gist_report, same]
      rfl
  | .run header content => by
      rw [withoutLines, findings, findings, map_gist_report, map_gist_report, same]
  | .search header pattern upTo replacement => by
      rw [withoutLines, findings, findings, map_gist_report, map_gist_report, same]
      rfl
  | .tasks header operations => by
      have inside := @map_gist_findingsAll (some 0) (some header.line) rfl operations
      rw [withoutLines, findings, findings, List.map_append, List.map_append, same]
      refine congr (congrArg _ ?_) inside
      split <;> rfl

theorem map_gist_findingsAll {parent other : Option Nat} (same : parent.isSome = other.isSome) :
    (operations : List Operation) →
    (findingsAll parent (withoutLinesAll operations)).map Finding.gist =
      (findingsAll other operations).map Finding.gist
  | [] => rfl
  | first :: rest => by
      rw [withoutLinesAll, findingsAll, findingsAll, List.map_append, List.map_append,
        map_gist_findings same first, map_gist_findingsAll same rest]
end

end Operation

theorem map_gist_validate_placedAll (operations : List Operation) :
    (validate (Operation.placedAll delimiters 0 operations)).map Finding.gist =
      (validate operations).map Finding.gist := by
  unfold validate
  rw [← Operation.map_gist_findingsAll rfl (Operation.placedAll delimiters 0 operations),
    ← Operation.map_gist_findingsAll rfl operations, Operation.withoutLinesAll_placedAll]

def Entry.ofText (text : Text) : Entry := .file (String.ofList text).toUTF8

theorem Entry.text_ofText (text : Text) : (Entry.ofText text).text = .ok text := by
  have valid : (String.ofList text).toUTF8.IsValidUTF8 := (String.ofList text).isValidUTF8
  have decoded : String.fromUTF8? (String.ofList text).toUTF8 = some (String.ofList text) := by
    rw [String.fromUTF8?, dif_pos valid]
    rfl
  rw [Entry.ofText, Entry.text, decoded]
  simp only [String.toList_ofList]

namespace Command

theorem withText_of_text {path text : Text} {entry : Entry} (readable : entry.text = .ok text)
    (use : Text → Outcome) : withText path (.ok entry) use = use text := by
  simp only [withText, readable]

theorem format_of_parse {text : Text} {operations : List Operation}
    (parsed : parse delimiters text = .ok operations) (coloured : Bool) (path : Text) :
    format coloured path delimiters text = ⟨0, print delimiters operations ++ ['\n'], []⟩ := by
  simp only [format, parsed]

theorem parse_of_format {coloured : Bool} {path text output messages : Text}
    (formatted : format coloured path delimiters text = ⟨0, output, messages⟩) :
    ∃ operations, parse delimiters text = .ok operations ∧
      output = print delimiters operations ++ ['\n'] := by
  unfold format at formatted
  split at formatted
  · cases formatted
  · next operations parsed =>
      cases formatted
      exact ⟨operations, parsed, rfl⟩

theorem check_code_of_review {text : Text} {result : Review}
    (reviewed : review delimiters text = .ok result) (coloured : Bool) (path : Text)
    (listing : Listing) :
    (check coloured path listing delimiters text).code = if result.findings = [] then 0 else 1 := by
  simp only [check, reviewed]

end Command

theorem review_of_parse {text : Text} {operations : List Operation}
    (parsed : parse delimiters text = .ok operations) :
    review delimiters text = .ok ⟨operations, validate operations⟩ := by
  simp only [review, parsed]

/-- What formatting writes is formatted as itself, and checking it ends like
checking the script: with the same exit code, and with the same findings in the
same order up to the numbers of lines. -/
theorem format_again {terminal uncoloured : Bool} {path text output messages : Text}
    {entry : Entry} (present : delimiters.opening ≠ []) (readable : entry.text = .ok text)
    (formatted : Invocation.run terminal ⟨uncoloured, .format path delimiters⟩ (.ok entry) =
      ⟨0, output, messages⟩) :
    (∃ operations, parse delimiters text = .ok operations ∧
      output = print delimiters operations ++ ['\n']) ∧
    (∀ terminal uncoloured path,
      Invocation.run terminal ⟨uncoloured, .format path delimiters⟩ (.ok (.ofText output)) =
        ⟨0, output, []⟩) ∧
    (∀ terminal uncoloured path path' listing,
      (Invocation.run terminal ⟨uncoloured, .check path' listing delimiters⟩
          (.ok (.ofText output))).code =
        (Invocation.run terminal ⟨uncoloured, .check path listing delimiters⟩ (.ok entry)).code) ∧
    ∃ before after, review delimiters text = .ok before ∧ review delimiters output = .ok after ∧
      after.findings.map Finding.gist = before.findings.map Finding.gist := by
  simp only [Invocation.run, Command.withText_of_text readable] at formatted ⊢
  simp only [Command.withText_of_text (Entry.text_ofText output)]
  obtain ⟨operations, parsed, rfl⟩ := Command.parse_of_format formatted
  have again := parse_print_feed present parsed
  have before := review_of_parse parsed
  have after := review_of_parse again
  have found := @map_gist_validate_placedAll delimiters operations
  refine ⟨⟨operations, parsed, rfl⟩, ?_, ?_, _, _, before, after, found⟩
  · intro terminal uncoloured path
    rw [Command.format_of_parse again, print_placedAll]
  · intro terminal uncoloured path path' listing
    have none : validate (Operation.placedAll delimiters 0 operations) = [] ↔
        validate operations = [] := by
      rw [← List.map_eq_nil_iff, found, List.map_eq_nil_iff]
    rw [Command.check_code_of_review after, Command.check_code_of_review before]
    simp only [none]

/-- The bare search gets a replacing marker, which moves the run behind it by a
line.  Formatting again moves nothing more, and checking refuses both: no file is named,
and there is nothing to run. -/
theorem format_again_bare_search :
    Invocation.run false ⟨false, .format "a".toList ⟨['<'], ['>']⟩⟩
        (.ok (.ofText "<SEARCH>\nx\n<END>\n<RUN>\n<END>".toList)) =
      ⟨0, "<SEARCH>\nx\n<REPLACE>\n<END>\n<RUN>\n<END>\n".toList, []⟩ ∧
    Invocation.run false ⟨false, .format "b".toList ⟨['<'], ['>']⟩⟩
        (.ok (.ofText "<SEARCH>\nx\n<REPLACE>\n<END>\n<RUN>\n<END>\n".toList)) =
      ⟨0, "<SEARCH>\nx\n<REPLACE>\n<END>\n<RUN>\n<END>\n".toList, []⟩ ∧
    (Invocation.run false ⟨false, .check "b".toList .none ⟨['<'], ['>']⟩⟩
        (.ok (.ofText "<SEARCH>\nx\n<REPLACE>\n<END>\n<RUN>\n<END>\n".toList))).code = 1 ∧
    (Invocation.run false ⟨false, .check "a".toList .none ⟨['<'], ['>']⟩⟩
        (.ok (.ofText "<SEARCH>\nx\n<END>\n<RUN>\n<END>".toList))).code = 1 := by
  have readable := Entry.text_ofText "<SEARCH>\nx\n<END>\n<RUN>\n<END>".toList
  have parsed : parse ⟨['<'], ['>']⟩ "<SEARCH>\nx\n<END>\n<RUN>\n<END>".toList =
      .ok [.search ⟨1, []⟩ "x".toList none [], .run ⟨4, []⟩ []] := by
    decide +kernel
  have formatted : Invocation.run false ⟨false, .format "a".toList ⟨['<'], ['>']⟩⟩
      (.ok (.ofText "<SEARCH>\nx\n<END>\n<RUN>\n<END>".toList)) =
        ⟨0, "<SEARCH>\nx\n<REPLACE>\n<END>\n<RUN>\n<END>\n".toList, []⟩ := by
    simp only [Invocation.run, Command.withText_of_text readable, Command.format_of_parse parsed]
    decide +kernel
  have refused : (Invocation.run false ⟨false, .check "a".toList .none ⟨['<'], ['>']⟩⟩
      (.ok (.ofText "<SEARCH>\nx\n<END>\n<RUN>\n<END>".toList))).code = 1 := by
    simp only [Invocation.run, Command.withText_of_text readable,
      Command.check_code_of_review (review_of_parse parsed)]
    decide +kernel
  obtain ⟨_printed, again, checked, _found⟩ := format_again (by decide) readable formatted
  have ended := checked false false "a".toList "b".toList .none
  exact ⟨formatted, again false false "b".toList, ended.trans refused, refused⟩

end ChangeScript

/-
When a script turns out as its fixture says.

A fixture passes exactly when its expectations hold: the expected rejection, or no
rejection, the expected number of operations and the expected findings one by one.
Where findings differ, the first that does is named, and of what it was expected to
be the first thing that it is not.
-/

import Mathlib.Data.List.Basic
import ChangeScript.Fixture.Verdict

set_option autoImplicit false

namespace ChangeScript

open Text

theorem Text.holds_eq_true_iff {text part : Text} : text.holds part = true ↔ part <:+: text := by
  induction text with
  | nil =>
      rw [holds, splitAtFirst?, Option.isSome_map, List.isSome_isPrefixOf?_eq_isPrefixOf,
        List.isPrefixOf_iff_prefix, List.prefix_nil, List.infix_nil]
  | cons c rest ih =>
      rw [List.infix_cons_iff, ← ih, ← List.isPrefixOf_iff_prefix,
        ← List.isSome_isPrefixOf?_eq_isPrefixOf, holds, holds, splitAtFirst?]
      cases part.isPrefixOf? (c :: rest) with
      | none => simp
      | some behind => simp

namespace Fixture

/-- A finding is as expected in everything that is set. -/
structure ExpectedFinding.Matches (expected : ExpectedFinding) (actual : Finding) : Prop where
  message : expected.contains <:+: actual.message
  line : ∀ line, expected.line = some line → actual.line = line
  parent : ∀ parent, expected.parent = some parent → actual.parent = some parent

/-- What is said about a finding that is not as expected: the first thing that
differs, in the order message, line, parent. -/
inductive ExpectedFinding.Differs (expected : ExpectedFinding) (actual : Finding) : Text → Prop
  | message (absent : ¬expected.contains <:+: actual.message) :
      Differs expected actual
        ("expected message containing \"".toList ++ expected.contains ++ "\", got: ".toList ++
          actual.message)
  | line {line : Nat} (message : expected.contains <:+: actual.message)
      (set : expected.line = some line) (other : actual.line ≠ line) :
      Differs expected actual
        ("expected on line ".toList ++ ofNat line ++ ", got line ".toList ++ ofNat actual.line)
  | parent {parent : Nat} (message : expected.contains <:+: actual.message)
      (line : ∀ line, expected.line = some line → actual.line = line)
      (set : expected.parent = some parent) (other : actual.parent ≠ some parent) :
      Differs expected actual
        ("expected parent TASKS line ".toList ++ lineText (some parent) ++ ", got ".toList ++
          lineText actual.parent)

theorem ExpectedFinding.Differs.not_matches {expected : ExpectedFinding} {actual : Finding}
    {reason : Text} (differs : expected.Differs actual reason) : ¬expected.Matches actual := by
  intro same
  cases differs with
  | message absent => exact absent same.message
  | line message set other => exact other (same.line _ set)
  | parent message line set other => exact other (same.parent _ set)

private theorem eq_of_filter_ne {Value Other : Type} [DecidableEq Other] {view : Value → Other}
    {set : Option Value} {actual : Other}
    (kept : (set.filter fun value => view value ≠ actual) = none) :
    ∀ value, set = some value → actual = view value := by
  intro value same
  have equal := Option.filter_eq_none_iff.mp kept value same
  rw [decide_eq_true_iff, Decidable.not_not] at equal
  exact equal.symm

theorem ExpectedFinding.difference?_cases (expected : ExpectedFinding) (actual : Finding) :
    (expected.difference? actual = none ∧ expected.Matches actual) ∨
    ∃ difference, expected.difference? actual = some difference ∧
      expected.Differs actual difference.text := by
  unfold difference?
  by_cases held : actual.message.holds expected.contains = true
  · have message := holds_eq_true_iff.mp held
    rw [if_neg (by rw [held]; decide)]
    cases lineFound : expected.line.filter fun line => line ≠ actual.line with
    | some line =>
        obtain ⟨set, other⟩ := Option.filter_eq_some_iff.mp lineFound
        exact .inr ⟨_, rfl, .line message set (of_decide_eq_true other).symm⟩
    | none =>
        have line := eq_of_filter_ne lineFound
        cases parentFound : expected.parent.filter fun parent => some parent ≠ actual.parent with
        | some parent =>
            obtain ⟨set, other⟩ := Option.filter_eq_some_iff.mp parentFound
            exact .inr ⟨_, rfl, .parent message line set (of_decide_eq_true other).symm⟩
        | none => exact .inl ⟨rfl, message, line, eq_of_filter_ne parentFound⟩
  · have absent : ¬expected.contains <:+: actual.message := fun inside =>
      held (holds_eq_true_iff.mpr inside)
    rw [if_pos (by rw [Bool.eq_false_iff.mpr held]; rfl)]
    exact .inr ⟨_, rfl, .message absent⟩

/-! ### All findings -/

def MatchAt (expected : List ExpectedFinding) (actual : List Finding) (index : Nat) : Prop :=
  ∀ entry finding, expected[index]? = some entry → actual[index]? = some finding →
    entry.Matches finding

/-- The first place where findings differ, and what is said about it. -/
structure DifferFirst (expected : List ExpectedFinding) (actual : List Finding) (index : Nat)
    (reason : Text) : Prop where
  here : ∃ entry finding, expected[index]? = some entry ∧ actual[index]? = some finding ∧
    entry.Differs finding reason
  before : ∀ earlier < index, MatchAt expected actual earlier

theorem DifferFirst.not_matchAt {expected : List ExpectedFinding} {actual : List Finding}
    {index : Nat} {reason : Text} (differ : DifferFirst expected actual index reason) :
    ¬MatchAt expected actual index := by
  obtain ⟨entry, finding, entryAt, findingAt, differs⟩ := differ.here
  exact fun same => differs.not_matches (same entry finding entryAt findingAt)

theorem matchAt_cons_zero {first : ExpectedFinding} {finding : Finding}
    {expected : List ExpectedFinding} {actual : List Finding} (same : first.Matches finding) :
    MatchAt (first :: expected) (finding :: actual) 0 := by
  intro entry found entryAt foundAt
  cases entryAt
  cases foundAt
  exact same

/-- Looking for the first difference finds it, or there is none. -/
theorem firstDifference?_cases (start : Nat) (expected : List ExpectedFinding)
    (actual : List Finding) :
    (firstDifference? start expected actual = none ∧ ∀ index, MatchAt expected actual index) ∨
    ∃ index difference, firstDifference? start expected actual =
        some (.finding (start + index) difference) ∧
      DifferFirst expected actual index difference.text := by
  fun_induction firstDifference? start expected actual with
  | case1 start first restExpected finding restActual difference found =>
      rcases first.difference?_cases finding with ⟨silent, _⟩ | ⟨other, reported, differs⟩
      · rw [found] at silent
        cases silent
      · rw [found] at reported
        cases reported
        refine .inr ⟨0, difference, rfl, ⟨first, finding, rfl, rfl, differs⟩, ?_⟩
        exact fun earlier below => absurd below (Nat.not_lt_zero earlier)
  | case2 start first restExpected finding restActual silent ih =>
      have same : first.Matches finding := by
        rcases first.difference?_cases finding with ⟨_, same⟩ | ⟨other, reported, _⟩
        · exact same
        · rw [silent] at reported
          cases reported
      rcases ih with ⟨nothing, rest⟩ | ⟨index, difference, found, differ⟩
      · refine .inl ⟨nothing, fun index => ?_⟩
        cases index with
        | zero => exact matchAt_cons_zero same
        | succ index => exact rest index
      · refine .inr ⟨index + 1, difference, ?_, differ.here, fun earlier below => ?_⟩
        · rw [found, Nat.add_right_comm, Nat.add_assoc]
        · cases earlier with
          | zero => exact matchAt_cons_zero same
          | succ earlier => exact differ.before earlier (Nat.lt_of_succ_lt_succ below)
  | case3 expected start actual ended =>
      refine .inl ⟨rfl, fun index entry finding entryAt findingAt => ?_⟩
      cases expected with
      | nil => cases entryAt
      | cons first restExpected =>
          cases actual with
          | nil => cases findingAt
          | cons other restActual => exact (ended first restExpected other restActual rfl rfl).elim

theorem findingsMismatch?_eq_none_iff {expected : List ExpectedFinding} {actual : List Finding} :
    findingsMismatch? expected actual = none ↔
      expected.length = actual.length ∧ ∀ index, MatchAt expected actual index := by
  unfold findingsMismatch?
  by_cases count : expected.length = actual.length
  · rw [if_neg (fun other => other count)]
    rcases firstDifference?_cases 0 expected actual with ⟨silent, all⟩ | ⟨index, _, found, differ⟩
    · exact ⟨fun _ => ⟨count, all⟩, fun _ => silent⟩
    · rw [found]
      exact ⟨nofun, fun matched => absurd (matched.2 index) differ.not_matchAt⟩
  · rw [if_pos count]
    exact ⟨nofun, fun matched => absurd matched.1 count⟩

/-- What a configuration expects of a script: to be refused with a message that holds
the expected text, or to be read with the expected number of operations and findings. -/
inductive Config.Meets (config : Config) : Except Rejection Review → Prop
  | rejected {expected : Text} {rejection : Rejection} (set : config.rejection = some expected)
      (inside : expected <:+: "Line ".toList ++ ofNat rejection.line ++ ": ".toList ++
        rejection.fault.message) :
      Meets config (.error rejection)
  | accepted {result : Review} (unset : config.rejection = none)
      (operations : ∀ count, config.operations = some count → result.operations.length = count)
      (findings : ∀ expected, config.findings = some expected →
        expected.length = result.findings.length ∧
          ∀ index, MatchAt expected result.findings index) :
      Meets config (.ok result)

theorem reviewMismatch?_of_operations {config : Config} {result : Review}
    (operations : ∀ count, config.operations = some count → result.operations.length = count) :
    reviewMismatch? config result =
      config.findings.bind fun expected => findingsMismatch? expected result.findings := by
  have kept : (config.operations.filter fun count => count ≠ result.operations.length) = none := by
    apply Option.filter_eq_none_iff.mpr
    intro count set
    rw [operations count set]
    simp
  simp only [reviewMismatch?, kept]
  cases config.findings <;> rfl

theorem operations_of_reviewMismatch? {config : Config} {result : Review}
    (silent : reviewMismatch? config result = none) :
    ∀ count, config.operations = some count → result.operations.length = count := by
  unfold reviewMismatch? at silent
  split at silent
  · cases silent
  · next kept => exact eq_of_filter_ne kept

theorem Config.mismatch?_eq_none_iff (config : Config) (result : Except Rejection Review) :
    config.mismatch? result = none ↔ config.Meets result := by
  cases set : config.rejection with
  | some expected =>
      cases result with
      | error rejection =>
          simp only [mismatch?, set]
          by_cases held : rejection.message.holds expected = true
          · rw [if_pos held]
            exact ⟨fun _ => .rejected set (holds_eq_true_iff.mp held), fun _ => rfl⟩
          · rw [if_neg held]
            refine ⟨nofun, fun meets => ?_⟩
            cases meets with
            | rejected given inside =>
                rw [set] at given
                cases given
                exact absurd (holds_eq_true_iff.mpr inside) held
      | ok review =>
          simp only [mismatch?, set]
          refine ⟨nofun, fun meets => ?_⟩
          cases meets with
          | accepted unset _ _ =>
              rw [set] at unset
              cases unset
  | none =>
      cases result with
      | error rejection =>
          simp only [mismatch?, set]
          refine ⟨nofun, fun meets => ?_⟩
          cases meets with
          | rejected given _ =>
              rw [set] at given
              cases given
      | ok review =>
          simp only [mismatch?, set]
          constructor
          · intro silent
            have operations := operations_of_reviewMismatch? silent
            refine .accepted set operations fun expected given => ?_
            rw [reviewMismatch?_of_operations operations, given, Option.bind_some] at silent
            exact findingsMismatch?_eq_none_iff.mp silent
          · intro meets
            cases meets with
            | accepted _ operations findings =>
                rw [reviewMismatch?_of_operations operations]
                cases given : config.findings with
                | none => rfl
                | some expected => exact findingsMismatch?_eq_none_iff.mpr (findings expected given)

/-- A fixture passes exactly when its expectations hold.  If only findings differ, the
first of them that does is named, with the first thing that it was expected to be and
is not. -/
theorem passes_or_names_first_difference (config : Config) (result : Except Rejection Review) :
    (config.mismatch? result = none ↔ config.Meets result) ∧
    ∀ (review : Review) (expected : List ExpectedFinding), result = .ok review →
      config.rejection = none →
      (∀ count, config.operations = some count → review.operations.length = count) →
      config.findings = some expected → expected.length = review.findings.length →
      (∃ index, ¬MatchAt expected review.findings index) →
      ∃ index reason, DifferFirst expected review.findings index reason ∧
        (config.mismatch? result).map Mismatch.text =
          some ("error[".toList ++ ofNat index ++ "]: ".toList ++ reason) := by
  refine ⟨config.mismatch?_eq_none_iff result, ?_⟩
  rintro review expected rfl unset operations given count ⟨place, other⟩
  rcases firstDifference?_cases 0 expected review.findings with
    ⟨_, all⟩ | ⟨index, difference, found, differ⟩
  · exact absurd (all place) other
  · refine ⟨index, difference.text, differ, ?_⟩
    have report : config.mismatch? (.ok review) = some (.finding index difference) := by
      simp only [Config.mismatch?, unset, reviewMismatch?_of_operations operations, given,
        Option.bind_some, findingsMismatch?]
      rw [if_neg (fun apart => apart count), found, Nat.zero_add]
    rw [report]
    rfl

/-- The first finding is as expected.  The second is on another line and in another
tasks block than expected, and its line is named. -/
theorem names_line_of_second_finding :
    ∃ index reason,
      DifferFirst [⟨"file".toList, none, none⟩, ⟨[], some 3, some 1⟩]
        [Violation.missingFile.report 2 .write none, Violation.emptyRun.report 5 .run (some 4)]
        index reason ∧
      (Config.mismatch?
          ⟨none, .standard, none, some 0,
            some [⟨"file".toList, none, none⟩, ⟨[], some 3, some 1⟩]⟩
          (.ok ⟨[], [Violation.missingFile.report 2 .write none,
            Violation.emptyRun.report 5 .run (some 4)]⟩)).map Mismatch.text =
        some ("error[".toList ++ ofNat index ++ "]: ".toList ++ reason) ∧
      "error[".toList ++ ofNat index ++ "]: ".toList ++ reason =
        "error[1]: expected on line 3, got line 5".toList := by
  have other : ¬MatchAt [⟨"file".toList, none, none⟩, ⟨[], some 3, some 1⟩]
      [Violation.missingFile.report 2 .write none, Violation.emptyRun.report 5 .run (some 4)] 1 :=
    fun same => absurd ((same _ _ rfl rfl).line 3 rfl) (by decide)
  obtain ⟨index, reason, differ, text⟩ :=
    (passes_or_names_first_difference
      ⟨none, .standard, none, some 0, some [⟨"file".toList, none, none⟩, ⟨[], some 3, some 1⟩]⟩
      (.ok ⟨[], [Violation.missingFile.report 2 .write none,
        Violation.emptyRun.report 5 .run (some 4)]⟩)).2
      _ _ rfl rfl (fun _ set => Option.some.inj set) rfl rfl ⟨1, other⟩
  refine ⟨index, reason, differ, text, Option.some.inj (text.symm.trans ?_)⟩
  decide +kernel

end Fixture

end ChangeScript

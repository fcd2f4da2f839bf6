/-
Suites that run what is asked for.

Requests select categories of a catalog.  The selection depends on the set of requests
only, ascends, and is what is left in a map when every match of every request is put
into it.  Every fixture of the selection is tried once, and the exit code and the
numbers that are reported follow from the trials.
-/

import Mathlib.Data.List.Nodup
import ChangeScript.Command
import ChangeScript.Proofs.Catalog
import ChangeScript.Proofs.Frontmatter

set_option autoImplicit false

namespace ChangeScript

open Text

namespace Suite

/-- A request without the slashes before and behind it. -/
structure Trimmed (request name : Text) : Prop where
  slashes : ∃ before behind,
    request = List.replicate before '/' ++ (name ++ List.replicate behind '/')
  first : name.head? ≠ some '/'
  last : name.getLast? ≠ some '/'

private theorem slash_of_mem_replicate {count : Nat} :
    ∀ c ∈ List.replicate count '/', decide (c = '/') = true :=
  fun _ member => decide_eq_true (List.eq_of_mem_replicate member)

theorem Trimmed.eq_trimSlashes {request name : Text} (trimmed : Trimmed request name) :
    trimSlashes request = name := by
  obtain ⟨⟨before, behind, shape⟩, first, last⟩ := trimmed
  rw [shape, trimSlashes]
  by_cases empty : name = []
  · have dropped : (List.replicate before '/' ++ (name ++ List.replicate behind '/')).dropWhile
        (fun c => c = '/') = [] := by
      rw [List.dropWhile_eq_nil_iff, empty, List.nil_append, List.forall_mem_append]
      exact ⟨slash_of_mem_replicate, slash_of_mem_replicate⟩
    rw [dropped, empty]
    rfl
  · have stops : Stops (fun c => c = '/') (name ++ List.replicate behind '/') := by
      intro c head
      rw [List.head?_append_of_ne_nil _ empty] at head
      exact decide_eq_false fun slash => first (by rw [head, slash])
    rw [dropWhile_append_of_stops slash_of_mem_replicate stops]
    apply trimEnd_append _ slash_of_mem_replicate
    intro c ends
    exact decide_eq_false fun slash => last (by rw [ends, slash])

private theorem eq_replicate_of_slashes {run : Text}
    (slashes : ∀ c ∈ run, decide (c = '/') = true) : run = List.replicate run.length '/' :=
  List.eq_replicate_of_mem fun c member => of_decide_eq_true (slashes c member)

theorem trimmed_trimSlashes (request : Text) : Trimmed request (trimSlashes request) := by
  obtain ⟨before, front, slashes, stops⟩ :=
    exists_run_of_dropWhile (Eq.refl (request.dropWhile fun c => c = '/'))
  obtain ⟨behind, back, slashesBehind, stopsBehind⟩ :=
    exists_run_of_dropWhile
      (Eq.refl ((request.dropWhile fun c => c = '/').reverse.dropWhile fun c => c = '/'))
  have rest : (request.dropWhile fun c => c = '/') = trimSlashes request ++ behind.reverse := by
    rw [← List.reverse_reverse (request.dropWhile fun c => c = '/'), back, List.reverse_append]
    rfl
  have runBehind : behind.reverse = List.replicate behind.length '/' := by
    rw [eq_replicate_of_slashes slashesBehind, List.reverse_replicate, List.length_replicate]
  refine ⟨⟨before.length, behind.length, ?_⟩, ?_, ?_⟩
  · rw [← runBehind, ← rest, ← eq_replicate_of_slashes slashes]
    exact front
  · intro head
    have slash := stops '/' (by rw [rest, List.head?_append, head]; rfl)
    exact absurd slash (by decide)
  · intro last
    rw [trimSlashes, trimEnd, List.getLast?_reverse] at last
    exact absurd (stopsBehind '/' last) (by decide)

theorem isFor_iff {request name : Text} :
    isFor request name = true ↔ name = request ∨ request ++ ['/'] <+: name := by
  rw [isFor, Bool.or_eq_true, decide_eq_true_iff, List.isPrefixOf_iff_prefix]

/-- Whether a category or one above it is asked for.  Without requests every category is. -/
def Requested (requests : List Text) (name : Text) : Prop :=
  requests = [] ∨ ∃ request ∈ requests, ∃ trimmed, Trimmed request trimmed ∧
    (name = trimmed ∨ trimmed ++ ['/'] <+: name)

theorem requested_iff {requests : List Text} {name : Text} :
    Requested requests name ↔
      requests = [] ∨ ∃ request ∈ requests, isFor (trimSlashes request) name = true := by
  constructor
  · rintro (none | ⟨request, member, trimmed, shape, found⟩)
    · exact .inl none
    · refine .inr ⟨request, member, ?_⟩
      rw [shape.eq_trimSlashes]
      exact isFor_iff.mpr found
  · rintro (none | ⟨request, member, found⟩)
    · exact .inl none
    · exact .inr ⟨request, member, _, trimmed_trimSlashes request, isFor_iff.mp found⟩

instance (requests : List Text) (name : Text) : Decidable (Requested requests name) :=
  decidable_of_iff _ requested_iff.symm

theorem requested_congr {requests others : List Text}
    (same : ∀ request, request ∈ others ↔ request ∈ requests) (name : Text) :
    Requested others name ↔ Requested requests name := by
  have empty : others = [] ↔ requests = [] := by
    rw [List.eq_nil_iff_forall_not_mem, List.eq_nil_iff_forall_not_mem]
    exact forall_congr' fun request => not_congr (same request)
  rw [Requested, Requested, empty]
  exact or_congr Iff.rfl (exists_congr fun request => and_congr (same request) Iff.rfl)

variable {Item : Type}

/-- The categories of a catalog that are asked for, in ascending order. -/
structure Selects (catalog : Catalog Item) (requests : List Text)
    (selected : List (Category Item)) : Prop where
  mem_iff : ∀ category, category ∈ selected ↔
    category ∈ catalog.categories ∧ Requested requests category.name
  ascending : (selected.map Category.name).Pairwise Before

theorem nodup_names_of_ascending {categories : List (Category Item)}
    (ascending : (categories.map Category.name).Pairwise Before) :
    (categories.map Category.name).Nodup := by
  refine ascending.imp ?_
  rintro name _ below rfl
  exact Before.irrefl name below

theorem Selects.unique {catalog : Catalog Item} {requests : List Text}
    {left right : List (Category Item)} (first : Selects catalog requests left)
    (second : Selects catalog requests right) : left = right := by
  refine List.Perm.eq_of_pairwise ?_ (List.pairwise_map.mp first.ascending)
    (List.pairwise_map.mp second.ascending) ?_
  · intro one other _ _ below above
    exact absurd (below.trans above) (Before.irrefl _)
  · rw [List.perm_ext_iff_of_nodup (nodup_names_of_ascending first.ascending).of_map
      (nodup_names_of_ascending second.ascending).of_map]
    intro category
    rw [first.mem_iff, second.mem_iff]

theorem select_eq_filter (requests : List Text) (categories : List (Category Item)) :
    select requests categories =
      categories.filter fun category => Requested requests category.name := by
  unfold select
  split
  · next empty =>
      exact (List.filter_eq_self.mpr fun category _ => decide_eq_true (.inl empty)).symm
  · next present =>
      apply List.filter_congr
      intro category _
      rw [Bool.eq_iff_iff, decide_eq_true_iff, requested_iff, List.any_eq_true]
      simp only [present, false_or]

theorem selects_select (catalog : Catalog Item) (requests : List Text) :
    Selects catalog requests (select requests catalog.categories) := by
  rw [select_eq_filter]
  refine ⟨fun category => ?_, ?_⟩
  · rw [List.mem_filter, decide_eq_true_iff]
  · exact catalog.ascending.sublist (List.filter_sublist.map Category.name)

theorem select_congr (catalog : Catalog Item) {requests others : List Text}
    (same : ∀ request, request ∈ others ↔ request ∈ requests) :
    select others catalog.categories = select requests catalog.categories := by
  have selects := selects_select catalog others
  refine Selects.unique ⟨fun category => ?_, selects.ascending⟩ (selects_select catalog requests)
  rw [selects.mem_iff, requested_congr same]

/-! ### Matches put into a map -/

/-- Put a category into a map, in the place of one with the same name. -/
def insert (category : Category Item) : List (Category Item) → List (Category Item)
  | [] => [category]
  | first :: rest =>
      if Before category.name first.name then category :: first :: rest
      else if category.name = first.name then category :: rest
      else first :: insert category rest

/-- For each request go through all categories, and put those that it is for into a map. -/
def gather (requests : List Text) (categories : List (Category Item)) : List (Category Item) :=
  requests.foldl
    (fun selected request => categories.foldl
      (fun selected category =>
        if isFor (trimSlashes request) category.name then insert category selected else selected)
      selected)
    []

def matched (requests : List Text) (categories : List (Category Item)) : List (Category Item) :=
  requests.flatMap fun request => categories.filter fun category =>
    isFor (trimSlashes request) category.name

theorem gather_eq_foldl_insert (requests : List Text) (categories : List (Category Item)) :
    gather requests categories =
      (matched requests categories).foldl (fun selected category => insert category selected)
        [] := by
  rw [matched, List.foldl_flatMap]
  simp only [List.foldl_filter]
  rfl

theorem mem_matched {requests : List Text} (present : requests ≠ [])
    {categories : List (Category Item)} {category : Category Item} :
    category ∈ matched requests categories ↔
      category ∈ categories ∧ Requested requests category.name := by
  simp only [matched, List.mem_flatMap, List.mem_filter, requested_iff, present, false_or]
  exact ⟨fun ⟨request, asked, known, found⟩ => ⟨known, request, asked, found⟩,
    fun ⟨known, request, asked, found⟩ => ⟨request, asked, known, found⟩⟩

theorem Catalog.eq_of_name_eq (catalog : Catalog Item) {left right : Category Item}
    (first : left ∈ catalog.categories) (second : right ∈ catalog.categories)
    (same : left.name = right.name) : left = right :=
  List.inj_on_of_nodup_map (nodup_names_of_ascending catalog.ascending) first second same

section Insert

variable {catalog : Catalog Item} {category : Category Item} {selected : List (Category Item)}

theorem mem_insert (known : category ∈ catalog.categories)
    (inside : ∀ other ∈ selected, other ∈ catalog.categories) (other : Category Item) :
    other ∈ insert category selected ↔ other = category ∨ other ∈ selected := by
  induction selected with
  | nil => simp [insert]
  | cons first rest ih =>
      obtain ⟨firstKnown, restKnown⟩ := List.forall_mem_cons.mp inside
      rw [insert]
      split
      · exact List.mem_cons
      · split
        · next same =>
            rw [catalog.eq_of_name_eq known firstKnown same]
            simp
        · rw [List.mem_cons, ih restKnown, List.mem_cons]
          exact or_left_comm

/-- What a map of categories is at any time: a part of the catalog, in ascending order. -/
structure Gathered (catalog : Catalog Item) (selected : List (Category Item)) : Prop where
  known : ∀ category ∈ selected, category ∈ catalog.categories
  ascending : selected.Pairwise fun left right => Before left.name right.name

theorem ascending_insert (known : category ∈ catalog.categories)
    (gathered : Gathered catalog selected) :
    (insert category selected).Pairwise fun left right => Before left.name right.name := by
  induction selected with
  | nil => exact List.pairwise_singleton _ _
  | cons first rest ih =>
      obtain ⟨inside, ascending⟩ := gathered
      obtain ⟨least, ascendingRest⟩ := List.pairwise_cons.mp ascending
      have restKnown := (List.forall_mem_cons.mp inside).2
      rw [insert]
      split
      · next below =>
          refine List.pairwise_cons.mpr ⟨?_, ascending⟩
          exact List.forall_mem_cons.mpr
            ⟨below, fun other member => below.trans (least other member)⟩
      · next notBelow =>
          split
          · next same =>
              refine List.pairwise_cons.mpr ⟨fun other member => ?_, ascendingRest⟩
              rw [same]
              exact least other member
          · next other =>
              have inserted := ih ⟨restKnown, ascendingRest⟩
              refine List.pairwise_cons.mpr ⟨fun later member => ?_, inserted⟩
              rcases (mem_insert known restKnown later).mp member with rfl | member
              · exact before_of_not_before (Ne.symm other) notBelow
              · exact least later member

theorem gathered_insert (known : category ∈ catalog.categories)
    (gathered : Gathered catalog selected) : Gathered catalog (insert category selected) := by
  refine ⟨fun other member => ?_, ascending_insert known gathered⟩
  rcases (mem_insert known gathered.known other).mp member with rfl | member
  · exact known
  · exact gathered.known other member

theorem gathered_foldl_insert {found : List (Category Item)}
    (known : ∀ category ∈ found, category ∈ catalog.categories)
    (gathered : Gathered catalog selected) :
    Gathered catalog
      (found.foldl (fun selected category => insert category selected) selected) ∧
    ∀ other, other ∈ found.foldl (fun selected category => insert category selected) selected ↔
      other ∈ found ∨ other ∈ selected := by
  induction found generalizing selected with
  | nil => exact ⟨gathered, fun other => by simp⟩
  | cons first rest ih =>
      obtain ⟨firstKnown, restKnown⟩ := List.forall_mem_cons.mp known
      obtain ⟨whole, members⟩ := ih restKnown (gathered_insert firstKnown gathered)
      refine ⟨whole, fun other => ?_⟩
      rw [List.foldl_cons, members, mem_insert firstKnown gathered.known, List.mem_cons,
        or_left_comm, or_assoc]

end Insert

theorem selects_gather (catalog : Catalog Item) {requests : List Text} (present : requests ≠ []) :
    Selects catalog requests (gather requests catalog.categories) := by
  have known : ∀ category ∈ matched requests catalog.categories,
      category ∈ catalog.categories := fun category member => ((mem_matched present).mp member).1
  have start : Gathered catalog [] := ⟨List.forall_mem_nil _, List.Pairwise.nil⟩
  obtain ⟨gathered, members⟩ := gathered_foldl_insert known start
  rw [gather_eq_foldl_insert]
  refine ⟨fun category => ?_, List.pairwise_map.mpr gathered.ascending⟩
  rw [members, mem_matched present]
  simp

theorem gather_eq_select (catalog : Catalog Item) {requests : List Text}
    (present : requests ≠ []) :
    gather requests catalog.categories = select requests catalog.categories :=
  (selects_gather catalog present).unique (selects_select catalog requests)

/-- The fixtures of the categories that are asked for, in the order of the catalog. -/
def Catalog.asked (catalog : Catalog Item) (requests : List Text) : List Item :=
  catalog.categories.flatMap fun category =>
    if Requested requests category.name then category.items else []

theorem flatMap_items_select (catalog : Catalog Item) (requests : List Text) :
    (select requests catalog.categories).flatMap Category.items = catalog.asked requests := by
  rw [select_eq_filter, Catalog.asked]
  induction catalog.categories with
  | nil => rfl
  | cons first rest ih =>
      by_cases asked : Requested requests first.name
      · simp [asked, ih]
      · simp [asked, ih]

theorem allTrials_run (attempt : Item → Trial) (requests : List Text) (catalog : Catalog Item) :
    allTrials (run attempt requests catalog.categories) =
      (catalog.asked requests).map attempt := by
  rw [allTrials, run, List.flatMap_map, ← flatMap_items_select, List.map_flatMap]
  rfl

theorem run_eq_nil_iff (attempt : Item → Trial) (requests : List Text)
    (categories : List (Category Item)) :
    run attempt requests categories = [] ↔ select requests categories = [] :=
  List.map_eq_nil_iff

theorem failures_eq_nil_iff {trials : List Trial} :
    failures trials = [] ↔ ∀ trial ∈ trials, trial.passed = true := by
  rw [failures, List.filter_eq_nil_iff]
  simp only [Bool.not_eq_true', Bool.not_eq_false]

theorem code_testCategories (coloured : Bool) (attempt : Item → Trial) (requests : List Text)
    (catalog : Catalog Item) :
    (Command.testCategories coloured attempt requests catalog.categories).code =
      if select requests catalog.categories ≠ [] ∧
          ∀ item ∈ catalog.asked requests, (attempt item).passed = true then 0
      else 1 := by
  have passed : failures ((catalog.asked requests).map attempt) = [] ↔
      ∀ item ∈ catalog.asked requests, (attempt item).passed = true := by
    rw [failures_eq_nil_iff, List.forall_mem_map]
  simp only [Command.testCategories, suiteCode, run_eq_nil_iff, allTrials_run, exitCode, passed]
  by_cases empty : select requests catalog.categories = []
  · simp [empty]
  · simp [empty]

/-! ### The numbers that are reported -/

theorem length_trials (trials : List Trial) :
    trials.length = passCount trials + (failures trials).length := by
  rw [passCount, failures, ← List.countP_eq_length_filter, ← List.countP_eq_length_filter,
    List.length_eq_countP_add_countP Trial.passed]
  simp

def Catalog.passing (catalog : Catalog Item) (attempt : Item → Trial) (requests : List Text) :
    Nat :=
  (catalog.asked requests).countP fun item => (attempt item).passed

def Catalog.failing (catalog : Catalog Item) (attempt : Item → Trial) (requests : List Text) :
    Nat :=
  (catalog.asked requests).countP fun item => !(attempt item).passed

theorem passCount_asked (catalog : Catalog Item) (attempt : Item → Trial)
    (requests : List Text) :
    passCount ((catalog.asked requests).map attempt) = catalog.passing attempt requests := by
  rw [passCount, ← List.countP_eq_length_filter, List.countP_map]
  rfl

theorem length_failures_asked (catalog : Catalog Item) (attempt : Item → Trial)
    (requests : List Text) :
    (failures ((catalog.asked requests).map attempt)).length =
      catalog.failing attempt requests := by
  rw [failures, ← List.countP_eq_length_filter, List.countP_map]
  rfl

theorem passing_add_failing (catalog : Catalog Item) (attempt : Item → Trial)
    (requests : List Text) :
    catalog.passing attempt requests + catalog.failing attempt requests =
      (catalog.asked requests).length := by
  rw [← passCount_asked, ← length_failures_asked, ← length_trials, List.length_map]

def tallyText (coloured : Bool) (passing failing : Nat) : Text :=
  "\ntest result: ".toList ++
    if failing = 0 then
      Style.good.paint coloured "ok".toList ++ ". ".toList ++ ofNat passing ++
        " passed, 0 failed\n".toList
    else
      Style.bad.paint coloured "FAILED".toList ++ ". ".toList ++ ofNat passing ++
        " passed, ".toList ++ ofNat failing ++ " failed (of ".toList ++
        ofNat (passing + failing) ++ ")\n".toList

theorem tallyText_suffix_closingText (coloured : Bool) (trials : List Trial) :
    tallyText coloured (passCount trials) (failures trials).length <:+
      closingText coloured trials := by
  unfold tallyText closingText
  rewrite [← length_trials]
  by_cases clean : failures trials = []
  · rewrite [if_pos clean, if_pos (List.length_eq_zero_iff.mpr clean)]
    simp only [List.append_assoc]
    exact List.suffix_refl _
  · rewrite [if_neg clean, if_neg (List.length_eq_zero_iff.not.mpr clean)]
    simp only [List.append_assoc]
    exact (List.suffix_append _ _).trans (List.suffix_append _ _)

theorem tallyText_suffix_messages (coloured : Bool) (attempt : Item → Trial)
    (requests : List Text) (catalog : Catalog Item)
    (selected : select requests catalog.categories ≠ []) :
    tallyText coloured (catalog.passing attempt requests) (catalog.failing attempt requests) <:+
      (Command.testCategories coloured attempt requests catalog.categories).messages := by
  have tried : run attempt requests catalog.categories ≠ [] :=
    (run_eq_nil_iff attempt requests catalog.categories).not.mpr selected
  simp only [Command.testCategories, tried, if_false, suiteText, allTrials_run]
  rw [← passCount_asked, ← length_failures_asked]
  refine (tallyText_suffix_closingText coloured _).trans ?_
  exact (List.suffix_append _ _).trans (List.suffix_append _ _)

/-- The exit code for a folder.  One without fixtures is a catalog without categories. -/
theorem code_test_folder (coloured : Bool) (path : Text) (requests : List Text)
    (children : List (Text × Entry)) :
    (Command.test coloured path requests (.ok (.folder children))).code =
      if select requests (discover (.ok (.folder children))) ≠ [] ∧
          ∀ found ∈ (Catalog.ofFiles (findInAll [] children)).asked requests,
            (found.attempt path).passed = true then 0
      else 1 := by
  simp only [Command.test]
  split
  · next empty =>
      have nothing : discover (.ok (.folder children)) = [] := List.isEmpty_iff.mp empty
      simp [nothing, select]
  · exact code_testCategories coloured (Found.attempt path) requests
      (Catalog.ofFiles (findInAll [] children))

/-- A run tries what is asked for: the selection is the ascending one, whatever the order
and repetition of the requests, and is what the matches leave in a map; every fixture of it
is tried once; the exit code is zero if there are any and all pass; and the report ends
with the numbers of those that pass and fail. -/
theorem testCategories_tries_requested (coloured : Bool) (attempt : Item → Trial)
    (requests : List Text) (catalog : Catalog Item) :
    Selects catalog requests (select requests catalog.categories) ∧
    (requests ≠ [] →
      gather requests catalog.categories = select requests catalog.categories) ∧
    (∀ others, (∀ request, request ∈ others ↔ request ∈ requests) →
      select others catalog.categories = select requests catalog.categories) ∧
    allTrials (run attempt requests catalog.categories) =
      (catalog.asked requests).map attempt ∧
    (Command.testCategories coloured attempt requests catalog.categories).code =
      (if select requests catalog.categories ≠ [] ∧
          ∀ item ∈ catalog.asked requests, (attempt item).passed = true then 0
      else 1) ∧
    (select requests catalog.categories ≠ [] →
      tallyText coloured (catalog.passing attempt requests) (catalog.failing attempt requests) <:+
        (Command.testCategories coloured attempt requests catalog.categories).messages) ∧
    catalog.passing attempt requests + catalog.failing attempt requests =
      (catalog.asked requests).length := by
  refine ⟨selects_select catalog requests, gather_eq_select catalog,
    fun others same => select_congr catalog same, allTrials_run attempt requests catalog,
    code_testCategories coloured attempt requests catalog,
    tallyText_suffix_messages coloured attempt requests catalog,
    passing_add_failing catalog attempt requests⟩

/-- The root, a folder, one whose name only starts like it, and one below it. -/
def overlapping : Catalog Bool :=
  { categories :=
      [⟨[], [true]⟩, ⟨"a".toList, [true, false]⟩, ⟨"a-b".toList, [false]⟩,
        ⟨"a/b".toList, [true]⟩]
    ascending := by decide
    filled := by decide }

/-- The folder and the one below it are tried once each, for requests that repeat them. -/
theorem testCategories_tries_overlapping :
    let attempt := fun passes : Bool => Trial.mk [] [] (if passes then none else some [])
    let requests := ["/a/".toList, "a/b".toList, "a".toList]
    (select requests overlapping.categories).map Category.name = ["a".toList, "a/b".toList] ∧
    gather requests overlapping.categories = select requests overlapping.categories ∧
    select ["a/b".toList, "a".toList, "a".toList, "/a/".toList] overlapping.categories =
      select requests overlapping.categories ∧
    allTrials (run attempt requests overlapping.categories) = [true, false, true].map attempt ∧
    (Command.testCategories false attempt requests overlapping.categories).code = 1 ∧
    tallyText false 2 1 <:+
      (Command.testCategories false attempt requests overlapping.categories).messages := by
  intro attempt requests
  obtain ⟨-, gathered, reordered, trials, code, tally, -⟩ :=
    testCategories_tries_requested false attempt requests overlapping
  have passing : overlapping.passing attempt requests = 2 := by decide
  have failing : overlapping.failing attempt requests = 1 := by decide
  rw [passing, failing] at tally
  refine ⟨by decide, gathered (by decide), reordered _ fun request => ?_, ?_, ?_,
    tally (by decide)⟩
  · simp only [requests, List.mem_cons, List.not_mem_nil, or_false]
    tauto
  · rw [trials]
    decide
  · rw [code]
    decide

end Suite

end ChangeScript

/-
What validation reports, place by place.

An operation stands at an address, the indices on the way down to it, and the tasks
block around it stands at the address without its last index.  Addresses in
ascending order are document order.  Validation reports, address by address, the
broken rules of the operation there in one order that is fixed for all kinds, so it
reports nothing exactly when no rule is broken anywhere.
-/

import Mathlib.Data.List.Basic
import ChangeScript.Finding
import ChangeScript.Proofs.Attribute
import ChangeScript.Proofs.Tree

set_option autoImplicit false

namespace ChangeScript

open Text

namespace Violation

/-- The rules in the order in which their violations are reported. -/
def inOrder : List Violation :=
  [.missingFile, .invalidAppend, .invalidCount, .emptyRun, .emptyPattern, .emptyTo, .nestedTasks]

/-- Whether an operation breaks a rule, given the line of the tasks block around it. -/
def isBrokenBy (parent : Option Nat) : Operation → Violation → Bool
  | .write header _, .missingFile | .search header _ _ _, .missingFile =>
      decide (∀ name ∈ header.value? "file", name = [])
  | .write header _, .invalidAppend =>
      decide (∃ value ∈ header.value? "append", value ≠ "true".toList ∧ value ≠ "false".toList)
  | .search header _ _ _, .invalidCount =>
      decide (∃ value ∈ header.value? "count", Count.ofText? value = none)
  | .run _ content, .emptyRun => decide (content = [])
  | .search _ pattern _ _, .emptyPattern => decide (pattern = [])
  | .search _ _ upTo _, .emptyTo => decide (upTo = some [])
  | .tasks _ _, .nestedTasks => decide (parent ≠ none)
  | _, _ => false

def findingOn (parent : Option Nat) (operation : Operation) (violation : Violation) : Finding :=
  { line := operation.line
    kind := operation.kind
    message := violation.message
    field :=
      if violation = .invalidCount then some "count".toList
      else if violation = .invalidAppend then some "append".toList
      else none
    parent := if violation = .nestedTasks then none else parent }

/-- The rules on attributes are rules on what is declared, for names that are
declared once. -/
theorem isBrokenBy_iff_declared {header : Header}
    (distinct : (header.attributes.map Attribute.name).Nodup) (parent : Option Nat)
    (content pattern : Text) (upTo : Option Text) (replacement : Text) :
    (isBrokenBy parent (.write header content) .missingFile = true ↔
      ∀ name, ⟨"file".toList, name⟩ ∈ header.attributes → name = []) ∧
    (isBrokenBy parent (.write header content) .invalidAppend = true ↔
      ∃ value, ⟨"append".toList, value⟩ ∈ header.attributes ∧
        value ≠ "true".toList ∧ value ≠ "false".toList) ∧
    (isBrokenBy parent (.search header pattern upTo replacement) .missingFile = true ↔
      ∀ name, ⟨"file".toList, name⟩ ∈ header.attributes → name = []) ∧
    (isBrokenBy parent (.search header pattern upTo replacement) .invalidCount = true ↔
      ∃ value, ⟨"count".toList, value⟩ ∈ header.attributes ∧ Count.ofText? value = none) := by
  have declared (name : String) (value : Text) :
      value ∈ header.value? name ↔ ⟨name.toList, value⟩ ∈ header.attributes :=
    Attribute.find?_eq_some_iff distinct
  simp only [isBrokenBy, decide_eq_true_eq]
  simp only [declared, and_self]

theorem report_eq_findingOn {violation : Violation} (other : violation ≠ .nestedTasks)
    (operation : Operation) (parent : Option Nat) :
    violation.report operation.line operation.kind parent =
      violation.findingOn parent operation := by
  cases violation with
  | nestedTasks => exact absurd rfl other
  | _ => rfl

end Violation

structure Site where
  operation : Operation
  parent : Option Nat

def Site.findings (site : Site) : List Finding :=
  (Violation.inOrder.filter (Violation.isBrokenBy site.parent site.operation)).map
    (Violation.findingOn site.parent site.operation)

namespace Operation

/-- The operation at an address: the index of one of the operations, then of one of
its children, and so on. -/
def at? (operations : List Operation) : List Nat → Option Operation
  | [] => none
  | [index] => operations[index]?
  | index :: next :: rest =>
      operations[index]?.bind fun operation => at? operation.children (next :: rest)

/-- The operation at an address and the line of what stands one index less deep,
which for the first operations on the way down is the given line. -/
def siteIn? (outer : Option Nat) (operations : List Operation) (address : List Nat) :
    Option Site :=
  (at? operations address).map fun operation =>
    ⟨operation,
      if address.dropLast = [] then outer else (at? operations address.dropLast).map line⟩

def site? (operations : List Operation) (address : List Nat) : Option Site :=
  (at? operations address).map fun operation =>
    ⟨operation, (at? operations address.dropLast).map line⟩

mutual
def addressesBelow : Operation → List (List Nat)
  | .tasks _ operations => addressesFrom 0 operations
  | .write _ _ | .run _ _ | .search _ _ _ _ => []

/-- The addresses of operations, the first of which has the given index, and of what
is inside them. -/
def addressesFrom (index : Nat) : List Operation → List (List Nat)
  | [] => []
  | first :: rest =>
      [index] :: ((addressesBelow first).map (index :: ·) ++ addressesFrom (index + 1) rest)
end

def addresses (operations : List Operation) : List (List Nat) := addressesFrom 0 operations

mutual
def sitesBelow : Operation → List Site
  | .tasks header operations => sitesAll (some header.line) operations
  | .write _ _ | .run _ _ | .search _ _ _ _ => []

def sitesAll (outer : Option Nat) : List Operation → List Site
  | [] => []
  | first :: rest => ⟨first, outer⟩ :: (sitesBelow first ++ sitesAll outer rest)
end

theorem addressesBelow_eq (operation : Operation) :
    addressesBelow operation = addresses operation.children := by
  cases operation with
  | tasks header operations => rw [addressesBelow]; rfl
  | write header content => rw [addressesBelow]; rfl
  | run header content => rw [addressesBelow]; rfl
  | search header pattern upTo replacement => rw [addressesBelow]; rfl

theorem siteIn?_none (operations : List Operation) (address : List Nat) :
    siteIn? none operations address = site? operations address := by
  unfold siteIn? site?
  split
  · next short => rw [short]; rfl
  · rfl

theorem siteIn?_cons_cons (outer : Option Nat) (operations : List Operation) (index next : Nat)
    (rest : List Nat) :
    siteIn? outer operations (index :: next :: rest) =
      operations[index]?.bind fun operation =>
        siteIn? (some operation.line) operation.children (next :: rest) := by
  unfold siteIn?
  rw [at?]
  cases found : operations[index]? with
  | none => rfl
  | some operation =>
      cases rest with
      | nil => simp [at?, found]
      | cons last rest => simp [at?, found]

/-! ### Every place once, in order -/

theorem mem_addressesFrom_iff {index : Nat} {operations : List Operation} {address : List Nat} :
    address ∈ addressesFrom index operations ↔
      ∃ offset rest operation, address = (index + offset) :: rest ∧
        operations[offset]? = some operation ∧
        (rest = [] ∨ rest ∈ addresses operation.children) := by
  induction operations generalizing index with
  | nil => simp [addressesFrom]
  | cons first others ih =>
      rw [addressesFrom, List.mem_cons, List.mem_append, List.mem_map, addressesBelow_eq, ih]
      constructor
      · rintro (rfl | ⟨rest, below, rfl⟩ | ⟨offset, rest, operation, rfl, found, inside⟩)
        · exact ⟨0, [], first, rfl, rfl, Or.inl rfl⟩
        · exact ⟨0, rest, first, rfl, rfl, Or.inr below⟩
        · refine ⟨offset + 1, rest, operation, ?_, found, inside⟩
          rw [Nat.add_assoc, Nat.add_comm 1]
      · rintro ⟨offset, rest, operation, rfl, found, inside⟩
        cases offset with
        | zero =>
            cases found
            rcases inside with rfl | below
            · exact Or.inl rfl
            · exact Or.inr (Or.inl ⟨rest, below, rfl⟩)
        | succ offset =>
            refine Or.inr (Or.inr ⟨offset, rest, operation, ?_, found, inside⟩)
            rw [Nat.add_assoc, Nat.add_comm 1]

theorem ne_nil_of_mem_addresses {operations : List Operation} {address : List Nat}
    (member : address ∈ addresses operations) : address ≠ [] := by
  obtain ⟨offset, rest, operation, rfl, _found, _inside⟩ := mem_addressesFrom_iff.mp member
  exact List.cons_ne_nil _ _

theorem mem_addresses_iff {operations : List Operation} {address : List Nat} :
    address ∈ addresses operations ↔ ∃ operation, at? operations address = some operation := by
  unfold addresses
  induction address generalizing operations with
  | nil =>
      constructor
      · exact fun member => absurd rfl (ne_nil_of_mem_addresses member)
      · rintro ⟨operation, found⟩
        cases found
  | cons index address ih =>
      rw [mem_addressesFrom_iff]
      cases address with
      | nil =>
          constructor
          · rintro ⟨offset, rest, operation, same, found, _inside⟩
            cases same
            rw [Nat.zero_add] at *
            exact ⟨operation, found⟩
          · rintro ⟨operation, found⟩
            exact ⟨index, [], operation, by rw [Nat.zero_add], found, Or.inl rfl⟩
      | cons next rest =>
          rw [at?]
          constructor
          · rintro ⟨offset, below, group, same, found, inside⟩
            cases same
            rcases inside with empty | inside
            · cases empty
            · obtain ⟨operation, deeper⟩ := ih.mp inside
              rw [Nat.zero_add, found]
              exact ⟨operation, deeper⟩
          · rintro ⟨operation, found⟩
            obtain ⟨group, here, deeper⟩ := Option.bind_eq_some_iff.mp found
            exact ⟨index, next :: rest, group, by rw [Nat.zero_add], here,
              Or.inr (ih.mpr ⟨operation, deeper⟩)⟩

mutual
theorem pairwise_addressesBelow : (operation : Operation) →
    (addressesBelow operation).Pairwise (· < ·)
  | .tasks _ operations => pairwise_addressesFrom 0 operations
  | .write _ _ => List.Pairwise.nil
  | .run _ _ => List.Pairwise.nil
  | .search _ _ _ _ => List.Pairwise.nil

/-- Addresses come in ascending order, a tasks block before what is inside it. -/
theorem pairwise_addressesFrom (index : Nat) : (operations : List Operation) →
    (addressesFrom index operations).Pairwise (· < ·)
  | [] => List.Pairwise.nil
  | first :: rest => by
      have inside := pairwise_addressesBelow first
      have later := pairwise_addressesFrom (index + 1) rest
      have behind : ∀ address ∈ addressesFrom (index + 1) rest, ∀ start,
          index :: start < address := by
        intro address member start
        obtain ⟨offset, tail, operation, rfl, _found, _inside⟩ := mem_addressesFrom_iff.mp member
        exact List.cons_lt_cons_iff.mpr (Or.inl (by omega))
      rw [addressesFrom, List.pairwise_cons, List.pairwise_append]
      refine ⟨?_, ?_, later, ?_⟩
      · intro address member
        rcases List.mem_append.mp member with below | after
        · obtain ⟨deeper, present, rfl⟩ := List.mem_map.mp below
          rw [addressesBelow_eq] at present
          obtain ⟨next, tail, rfl⟩ := List.exists_cons_of_ne_nil (ne_nil_of_mem_addresses present)
          exact List.cons_lt_cons_iff.mpr (Or.inr ⟨rfl, List.nil_lt_cons next tail⟩)
        · exact behind address after []
      · refine List.Pairwise.map _ (fun left right below => ?_) inside
        exact List.cons_lt_cons_iff.mpr (Or.inr ⟨rfl, below⟩)
      · intro left before right after
        obtain ⟨deeper, _present, rfl⟩ := List.mem_map.mp before
        exact behind right after deeper
end

mutual
theorem filterMap_addressesBelow : (operation : Operation) →
    (addressesBelow operation).filterMap (siteIn? (some operation.line) operation.children) =
      sitesBelow operation
  | .tasks header operations => filterMap_addressesFrom (some header.line) [] operations
  | .write _ _ => rfl
  | .run _ _ => rfl
  | .search _ _ _ _ => rfl

/-- Looking up all addresses gives all places, whatever stands before the first. -/
theorem filterMap_addressesFrom (outer : Option Nat) (before : List Operation) :
    (operations : List Operation) →
    (addressesFrom before.length operations).filterMap (siteIn? outer (before ++ operations)) =
      sitesAll outer operations
  | [] => rfl
  | first :: rest => by
      have here : (before ++ first :: rest)[before.length]? = some first := by
        rw [List.getElem?_append_right (Nat.le_refl _), Nat.sub_self]
        rfl
      have single : siteIn? outer (before ++ first :: rest) [before.length] =
          some ⟨first, outer⟩ := by
        simp [siteIn?, at?]
      have inside : ((addressesBelow first).map (before.length :: ·)).filterMap
          (siteIn? outer (before ++ first :: rest)) = sitesBelow first := by
        rw [List.filterMap_map, ← filterMap_addressesBelow first]
        apply List.filterMap_congr
        intro address member
        rw [addressesBelow_eq] at member
        obtain ⟨next, tail, rfl⟩ := List.exists_cons_of_ne_nil (ne_nil_of_mem_addresses member)
        rw [Function.comp, siteIn?_cons_cons, here]
        rfl
      have later := filterMap_addressesFrom outer (before ++ [first]) rest
      rw [List.length_append, List.length_singleton, List.append_assoc, List.singleton_append]
        at later
      rw [addressesFrom, List.filterMap_cons, single, List.filterMap_append, inside, later,
        sitesAll]
end

theorem filterMap_site?_addresses (operations : List Operation) :
    (addresses operations).filterMap (site? operations) = sitesAll none operations := by
  rw [← funext (siteIn?_none operations)]
  exact filterMap_addressesFrom none [] operations

mutual
theorem map_operation_sitesBelow : (operation : Operation) →
    (sitesBelow operation).map Site.operation = preorderAll operation.children
  | .tasks header operations => map_operation_sitesAll (some header.line) operations
  | .write _ _ => rfl
  | .run _ _ => rfl
  | .search _ _ _ _ => rfl

theorem map_operation_sitesAll (outer : Option Nat) : (operations : List Operation) →
    (sitesAll outer operations).map Site.operation = preorderAll operations
  | [] => rfl
  | first :: rest => by
      rw [sitesAll, List.map_cons, List.map_append, map_operation_sitesBelow first,
        map_operation_sitesAll outer rest, preorderAll, preorder_eq_cons, List.cons_append]
end

theorem filterMap_at?_addresses (operations : List Operation) :
    (addresses operations).filterMap (at? operations) = preorderAll operations := by
  have looked : at? operations = fun address => (site? operations address).map Site.operation := by
    funext address
    unfold site?
    cases at? operations address with
    | none => rfl
    | some operation => rfl
  rw [looked, ← List.map_filterMap, filterMap_site?_addresses, map_operation_sitesAll]

end Operation

/-! ### Broken rules -/

namespace Header

theorem isNone_file?_iff (header : Header) :
    header.file?.isNone = true ↔ ∀ name ∈ header.value? "file", name = [] := by
  unfold file?
  cases header.value? "file" with
  | none => simp
  | some name => by_cases empty : name = [] <;> simp [Option.filter, empty]

theorem append_rejected_iff (header : Header) :
    (header.append?.isSome = true ∧ header.appendMode?.isNone = true) ↔
      ∃ value ∈ header.value? "append", value ≠ "true".toList ∧ value ≠ "false".toList := by
  unfold appendMode? append?
  cases header.value? "append" with
  | none => simp
  | some value =>
      simp only [Option.isSome_some, true_and, Option.mem_def, Option.some.injEq,
        exists_eq_left']
      by_cases yes : value = "true".toList
      · simp [yes]
      · by_cases no : value = "false".toList
        · simp [no]
        · rw [if_neg yes, if_neg no]
          exact iff_of_true rfl ⟨yes, no⟩

theorem count_rejected_iff (header : Header) :
    (header.count?.any fun value => (Count.ofText? value).isNone) = true ↔
      ∃ value ∈ header.value? "count", Count.ofText? value = none := by
  unfold count?
  cases header.value? "count" with
  | none => simp
  | some value => simp

end Header

theorem writeViolations_eq (parent : Option Nat) (header : Header) (content : Text) :
    writeViolations header =
      Violation.inOrder.filter (Violation.isBrokenBy parent (.write header content)) := by
  simp only [writeViolations, header.isNone_file?_iff, header.append_rejected_iff,
    Violation.inOrder, List.filter_cons, List.filter_nil, Violation.isBrokenBy,
    decide_eq_true_eq, Bool.false_eq_true, if_false]
  split <;> split <;> rfl

theorem runViolations_eq (parent : Option Nat) (header : Header) (content : Text) :
    runViolations content =
      Violation.inOrder.filter (Violation.isBrokenBy parent (.run header content)) := by
  simp only [runViolations, Violation.inOrder, List.filter_cons, List.filter_nil,
    Violation.isBrokenBy, decide_eq_true_eq, Bool.false_eq_true, if_false]

theorem searchViolations_eq (parent : Option Nat) (header : Header) (pattern : Text)
    (upTo : Option Text) (replacement : Text) :
    searchViolations header pattern upTo =
      Violation.inOrder.filter
        (Violation.isBrokenBy parent (.search header pattern upTo replacement)) := by
  simp only [searchViolations, header.isNone_file?_iff, header.count_rejected_iff,
    Violation.inOrder, List.filter_cons, List.filter_nil, Violation.isBrokenBy,
    decide_eq_true_eq, Bool.false_eq_true, if_false]
  split <;> split <;> split <;> split <;> rfl

namespace Operation

private theorem map_report_eq_findings {violations : List Violation} {parent : Option Nat}
    {operation : Operation} (leaf : operation.kind ≠ .tasks)
    (broken : violations = Violation.inOrder.filter (Violation.isBrokenBy parent operation)) :
    (violations.map fun violation => violation.report operation.line operation.kind parent) =
      Site.findings ⟨operation, parent⟩ := by
  subst broken
  apply List.map_congr_left
  intro violation member
  apply Violation.report_eq_findingOn
  rintro rfl
  have holds := (List.mem_filter.mp member).2
  cases operation with
  | tasks header operations => exact leaf rfl
  | write header content => cases holds
  | run header content => cases holds
  | search header pattern upTo replacement => cases holds

mutual
theorem findings_eq_sites (parent : Option Nat) : (operation : Operation) →
    operation.findings parent =
      Site.findings ⟨operation, parent⟩ ++ (sitesBelow operation).flatMap Site.findings
  | .write header content => by
      rw [findings, sitesBelow, List.flatMap_nil, List.append_nil]
      exact map_report_eq_findings (by nofun) (writeViolations_eq parent header content)
  | .run header content => by
      rw [findings, sitesBelow, List.flatMap_nil, List.append_nil]
      exact map_report_eq_findings (by nofun) (runViolations_eq parent header content)
  | .search header pattern upTo replacement => by
      rw [findings, sitesBelow, List.flatMap_nil, List.append_nil]
      exact map_report_eq_findings (by nofun)
        (searchViolations_eq parent header pattern upTo replacement)
  | .tasks header operations => by
      rw [findings, sitesBelow, findingsAll_eq_sites (some header.line) operations]
      cases parent with
      | none => rfl
      | some line => rfl

theorem findingsAll_eq_sites (outer : Option Nat) : (operations : List Operation) →
    findingsAll outer operations = (sitesAll outer operations).flatMap Site.findings
  | [] => rfl
  | first :: rest => by
      rw [findingsAll, sitesAll, List.flatMap_cons, List.flatMap_append, ← List.append_assoc,
        findings_eq_sites outer first, findingsAll_eq_sites outer rest]
end

/-- What stands one index less deep is the tasks block around an operation. -/
theorem around_of_at? {operations : List Operation} {address : List Nat} {operation : Operation}
    (found : at? operations address = some operation) :
    (address.length = 1 ∧ operation ∈ operations) ∨
      ∃ group, at? operations address.dropLast = some group ∧ group.kind = .tasks ∧
        operation ∈ group.children := by
  induction address generalizing operations with
  | nil => cases found
  | cons index address ih =>
      cases address with
      | nil => exact Or.inl ⟨rfl, List.mem_of_getElem? found⟩
      | cons next rest =>
          rw [at?] at found
          obtain ⟨above, here, deeper⟩ := Option.bind_eq_some_iff.mp found
          right
          cases rest with
          | nil =>
              have child : operation ∈ above.children := List.mem_of_getElem? deeper
              refine ⟨above, here, ?_, child⟩
              by_contra leaf
              rw [children_of_kind_ne_tasks leaf] at child
              cases child
          | cons last rest =>
              rcases ih deeper with ⟨short, _outside⟩ | ⟨group, around, tasks, child⟩
              · cases short
              · refine ⟨group, ?_, tasks, child⟩
                rw [List.dropLast_cons_cons, List.dropLast_cons_cons, at?, here]
                exact around

end Operation

theorem Site.findings_eq_nil_iff (site : Site) :
    site.findings = [] ↔
      ∀ violation, Violation.isBrokenBy site.parent site.operation violation = false := by
  unfold Site.findings
  rw [List.map_eq_nil_iff, List.filter_eq_nil_iff]
  constructor
  · intro kept violation
    rw [← Bool.not_eq_true]
    apply kept
    cases violation <;> decide
  · intro kept violation _member
    rw [kept violation]
    exact Bool.false_ne_true

theorem validate_eq_sites (operations : List Operation) :
    validate operations =
      ((Operation.addresses operations).filterMap (Operation.site? operations)).flatMap
        Site.findings := by
  rw [Operation.filterMap_site?_addresses]
  exact Operation.findingsAll_eq_sites none operations

theorem validate_eq_nil_iff (operations : List Operation) :
    validate operations = [] ↔
      ∀ address site, Operation.site? operations address = some site →
        ∀ violation, Violation.isBrokenBy site.parent site.operation violation = false := by
  rw [validate_eq_sites, List.flatMap_eq_nil_iff]
  constructor
  · intro clean address site found
    apply site.findings_eq_nil_iff.mp
    apply clean
    refine List.mem_filterMap.mpr ⟨address, ?_, found⟩
    obtain ⟨operation, present, _same⟩ := Option.map_eq_some_iff.mp found
    exact Operation.mem_addresses_iff.mpr ⟨operation, present⟩
  · intro clean site member
    obtain ⟨address, _listed, found⟩ := List.mem_filterMap.mp member
    exact site.findings_eq_nil_iff.mpr (clean address site found)

/-- Validation reports every broken rule of every operation once, in document order.

The addresses are exactly those of operations, in ascending order, and looking them
up gives the operations in document order.  An operation stands outside of all tasks
blocks, or its parent is the line of the tasks block that it is a child of.  What is
reported is what each place reports, so nothing is reported exactly when no rule is
broken anywhere. -/
theorem validate_reports_each_site (operations : List Operation) :
    (Operation.addresses operations).Pairwise (· < ·) ∧
    (∀ address, address ∈ Operation.addresses operations ↔
      ∃ operation, Operation.at? operations address = some operation) ∧
    (Operation.addresses operations).filterMap (Operation.at? operations) =
      Operation.preorderAll operations ∧
    (∀ address operation, Operation.at? operations address = some operation →
      (address.length = 1 ∧ operation ∈ operations) ∨
      ∃ group, Operation.at? operations address.dropLast = some group ∧ group.kind = .tasks ∧
        operation ∈ group.children) ∧
    validate operations =
      ((Operation.addresses operations).filterMap (Operation.site? operations)).flatMap
        Site.findings ∧
    (validate operations = [] ↔
      ∀ address site, Operation.site? operations address = some site →
        ∀ violation, Violation.isBrokenBy site.parent site.operation violation = false) :=
  ⟨Operation.pairwise_addressesFrom 0 operations,
    fun _ => Operation.mem_addresses_iff,
    Operation.filterMap_at?_addresses operations,
    fun _ _ found => Operation.around_of_at? found,
    validate_eq_sites operations,
    validate_eq_nil_iff operations⟩

/-- A block in a block in a block: each inner one is reported without a parent, and
the run in the innermost with its line. -/
example :
    validate [.tasks ⟨1, []⟩ [.tasks ⟨2, []⟩ [.tasks ⟨3, []⟩ [.run ⟨4, []⟩ []]]]] =
      [⟨2, .tasks, Violation.nestedTasks.message, none, none⟩,
        ⟨3, .tasks, Violation.nestedTasks.message, none, none⟩,
        ⟨4, .run, Violation.emptyRun.message, none, some 3⟩] := rfl

/-- An empty file name counts as none, and rules on values come behind it.  The last
operation declares what both kinds allow, in another order. -/
example :
    validate [.write ⟨1, [⟨"append".toList, "yes".toList⟩, ⟨"file".toList, []⟩]⟩ "x".toList,
        .search ⟨4, [⟨"file".toList, "a".toList⟩, ⟨"count".toList, "0".toList⟩]⟩ "x".toList none [],
        .search ⟨9, [⟨"count".toList, "2".toList⟩, ⟨"append".toList, "yes".toList⟩,
          ⟨"file".toList, "a".toList⟩]⟩ "x".toList none []] =
      [⟨1, .write, Violation.missingFile.message, none, none⟩,
        ⟨1, .write, Violation.invalidAppend.message, some "append".toList, none⟩,
        ⟨4, .search, Violation.invalidCount.message, some "count".toList, none⟩] := by
  decide +kernel

end ChangeScript

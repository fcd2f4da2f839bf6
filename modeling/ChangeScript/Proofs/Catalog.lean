/-
Catalogs of fixtures.

A catalog is a map from the names of categories to their fixtures, in the ascending
order of the names.  No category in it is empty.  The fixture files below a folder
make one.
-/

import ChangeScript.Suite.Discovery

set_option autoImplicit false

namespace ChangeScript

open Text

namespace Text

/-- A text comes before another by the codes of the first characters that differ, or
because it ends first. -/
def Before (left right : Text) : Prop := List.Lex (fun a b => a.toNat < b.toNat) left right

instance : DecidableRel Before :=
  List.decidableLex fun (a b : Char) => a.toNat < b.toNat

theorem Before.irrefl (text : Text) : ¬Before text text :=
  List.lex_irrefl (fun c => Nat.lt_irrefl c.toNat) text

theorem Before.trans {first second third : Text} (left : Before first second)
    (right : Before second third) : Before first third :=
  List.lex_trans Nat.lt_trans left right

theorem before_cons_iff {a b : Char} {left right : Text} :
    Before (a :: left) (b :: right) ↔ a.toNat < b.toNat ∨ a = b ∧ Before left right := by
  constructor
  · intro before
    cases before with
    | rel below => exact .inl below
    | cons rest => exact .inr ⟨rfl, rest⟩
  · rintro (below | ⟨rfl, rest⟩)
    · exact List.Lex.rel below
    · exact List.Lex.cons rest

theorem before_trichotomy (left right : Text) :
    left = right ∨ Before left right ∨ Before right left := by
  induction left generalizing right with
  | nil =>
      cases right with
      | nil => exact .inl rfl
      | cons b right => exact .inr (.inl List.Lex.nil)
  | cons a left ih =>
      cases right with
      | nil => exact .inr (.inr List.Lex.nil)
      | cons b right =>
          rcases Nat.lt_trichotomy a.toNat b.toNat with below | same | above
          · exact .inr (.inl (before_cons_iff.mpr (.inl below)))
          · have equal : a = b := Char.toNat_inj.mp same
            rcases ih right with rfl | before | behind
            · exact .inl (by rw [equal])
            · exact .inr (.inl (before_cons_iff.mpr (.inr ⟨equal, before⟩)))
            · exact .inr (.inr (before_cons_iff.mpr (.inr ⟨equal.symm, behind⟩)))
          · exact .inr (.inr (before_cons_iff.mpr (.inl above)))

theorem before_of_not_before {left right : Text} (other : left ≠ right)
    (notBehind : ¬Before right left) : Before left right :=
  ((before_trichotomy left right).resolve_left other).resolve_right notBehind

theorem precedes_eq_true_iff {left right : Text} :
    precedes left right = true ↔ left = right ∨ Before left right := by
  fun_induction precedes left right with
  | case1 right =>
      refine ⟨fun _ => ?_, fun _ => rfl⟩
      cases right with
      | nil => exact .inl rfl
      | cons b right => exact .inr List.Lex.nil
  | case2 a left => exact ⟨nofun, nofun⟩
  | case3 a left right ih =>
      rw [ih, before_cons_iff, List.cons_inj_right]
      simp only [Nat.lt_irrefl, false_or, true_and]
  | case4 a left b right other =>
      rw [decide_eq_true_iff, before_cons_iff, List.cons_eq_cons]
      simp only [other, false_and, or_false, false_or]

theorem pairwise_mergeSort_precedes (names : List Text) :
    (names.mergeSort precedes).Pairwise fun left right => left = right ∨ Before left right := by
  have sorted : (names.mergeSort precedes).Pairwise (fun left right => precedes left right) := by
    apply List.pairwise_mergeSort
    · intro first second third
      simp only [precedes_eq_true_iff]
      rintro (rfl | below) (rfl | above)
      · exact .inl rfl
      · exact .inr above
      · exact .inr below
      · exact .inr (below.trans above)
    · intro first second
      simp only [Bool.or_eq_true, precedes_eq_true_iff]
      rcases before_trichotomy first second with same | before | behind
      · exact .inl (.inl same)
      · exact .inl (.inr before)
      · exact .inr (.inr behind)
  exact sorted.imp precedes_eq_true_iff.mp

theorem pairwise_eraseDups : (names : List Text) →
    (names.Pairwise fun left right => left = right ∨ Before left right) →
    names.eraseDups.Pairwise Before
  | [], _ => List.Pairwise.nil
  | first :: rest, sorted => by
      obtain ⟨least, sortedRest⟩ := List.pairwise_cons.mp sorted
      rw [List.eraseDups_cons, List.pairwise_cons]
      refine ⟨?_, pairwise_eraseDups _ (sortedRest.filter _)⟩
      intro name member
      obtain ⟨inside, other⟩ := List.mem_filter.mp (List.mem_eraseDups.mp member)
      refine (least name inside).resolve_left ?_
      rintro rfl
      simp at other
termination_by names => names.length
decreasing_by exact Nat.lt_succ_of_le (List.length_filter_le _ _)

end Text

namespace Suite

structure Catalog (Item : Type) where
  categories : List (Category Item)
  ascending : (categories.map Category.name).Pairwise Before
  filled : ∀ category ∈ categories, category.items ≠ []

theorem ascending_group (files : List Found) :
    ((group files).map Category.name).Pairwise Before := by
  have names : (group files).map Category.name =
      ((files.map Found.category).mergeSort precedes).eraseDups := by
    rw [group, List.map_map]
    exact List.map_id _
  rw [names]
  exact pairwise_eraseDups _ (pairwise_mergeSort_precedes _)

theorem filled_group (files : List Found) : ∀ category ∈ group files, category.items ≠ [] := by
  intro category member
  obtain ⟨name, known, rfl⟩ := List.mem_map.mp member
  obtain ⟨file, found, same⟩ :=
    List.mem_map.mp (List.mem_mergeSort.mp (List.mem_eraseDups.mp known))
  have inside : file ∈ (files.mergeSort fun left right =>
      namesPrecede left.names right.names).filter fun file => file.category = name :=
    List.mem_filter.mpr ⟨List.mem_mergeSort.mpr found, decide_eq_true same⟩
  exact List.ne_nil_of_mem inside

/-- The catalog of fixture files, which are grouped by the folder that holds them. -/
def Catalog.ofFiles (files : List Found) : Catalog Found :=
  ⟨group files, ascending_group files, filled_group files⟩

end Suite

end ChangeScript

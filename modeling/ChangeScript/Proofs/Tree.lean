/-
Operations as trees.

A tasks block stands before its children in the order of a script.  Two trees
that differ in nothing but recorded lines are equal without their lines.
Equality of trees, and of what reading a script gives, can be decided.
-/

import ChangeScript.Fault
import ChangeScript.Operation

set_option autoImplicit false

namespace ChangeScript.Operation

def children : Operation → List Operation
  | .tasks _ operations => operations
  | _ => []

mutual
/-- An operation and everything inside it, in the order of their opening markers. -/
def preorder : Operation → List Operation
  | .write header content => [.write header content]
  | .run header content => [.run header content]
  | .search header pattern upTo replacement => [.search header pattern upTo replacement]
  | .tasks header operations => .tasks header operations :: preorderAll operations

def preorderAll : List Operation → List Operation
  | [] => []
  | first :: rest => first.preorder ++ preorderAll rest
end

mutual
def withoutLines : Operation → Operation
  | .write header content => .write { header with line := 0 } content
  | .run header content => .run { header with line := 0 } content
  | .search header pattern upTo replacement =>
      .search { header with line := 0 } pattern upTo replacement
  | .tasks header operations => .tasks { header with line := 0 } (withoutLinesAll operations)

def withoutLinesAll : List Operation → List Operation
  | [] => []
  | first :: rest => first.withoutLines :: withoutLinesAll rest
end

theorem preorder_eq_cons (operation : Operation) :
    operation.preorder = operation :: preorderAll operation.children := by
  cases operation <;> rfl

theorem preorderAll_append (left right : List Operation) :
    preorderAll (left ++ right) = preorderAll left ++ preorderAll right := by
  induction left with
  | nil => rfl
  | cons first rest ih => rw [List.cons_append, preorderAll, preorderAll, ih, List.append_assoc]

theorem preorderAll_singleton (operation : Operation) :
    preorderAll [operation] = operation.preorder := by
  rw [preorderAll, preorderAll, List.append_nil]

theorem mem_preorder_self (operation : Operation) : operation ∈ operation.preorder := by
  rw [preorder_eq_cons]
  exact List.mem_cons_self

theorem mem_preorderAll_of_mem {operation : Operation} {operations : List Operation}
    (member : operation ∈ operations) : operation ∈ preorderAll operations := by
  obtain ⟨left, right, rfl⟩ := List.append_of_mem member
  rw [preorderAll_append, preorderAll]
  exact List.mem_append_right _ (List.mem_append_left _ operation.mem_preorder_self)

theorem mem_preorderAll_iff {inner : Operation} {operations : List Operation} :
    inner ∈ preorderAll operations ↔ ∃ operation ∈ operations, inner ∈ operation.preorder := by
  induction operations with
  | nil => simp [preorderAll]
  | cons first rest ih =>
      simp only [preorderAll, List.mem_append, ih, List.mem_cons, exists_eq_or_imp]

theorem children_of_kind_ne_tasks {operation : Operation} (leaf : operation.kind ≠ .tasks) :
    operation.children = [] := by
  cases operation with
  | write header content => rfl
  | run header content => rfl
  | search header pattern upTo replacement => rfl
  | tasks header operations => exact absurd rfl leaf

mutual
def decEq : (left right : Operation) → Decidable (left = right)
  | .write header content, .write header' content' =>
      decidable_of_iff (header = header' ∧ content = content') (by simp)
  | .run header content, .run header' content' =>
      decidable_of_iff (header = header' ∧ content = content') (by simp)
  | .search header pattern upTo replacement, .search header' pattern' upTo' replacement' =>
      decidable_of_iff
        (header = header' ∧ pattern = pattern' ∧ upTo = upTo' ∧ replacement = replacement')
        (by simp)
  | .tasks header operations, .tasks header' operations' =>
      have := decEqAll operations operations'
      decidable_of_iff (header = header' ∧ operations = operations') (by simp)
  | .write _ _, .run _ _ | .write _ _, .search _ _ _ _ | .write _ _, .tasks _ _ => isFalse nofun
  | .run _ _, .write _ _ | .run _ _, .search _ _ _ _ | .run _ _, .tasks _ _ => isFalse nofun
  | .search _ _ _ _, .write _ _ | .search _ _ _ _, .run _ _ | .search _ _ _ _, .tasks _ _ =>
      isFalse nofun
  | .tasks _ _, .write _ _ | .tasks _ _, .run _ _ | .tasks _ _, .search _ _ _ _ => isFalse nofun

def decEqAll : (left right : List Operation) → Decidable (left = right)
  | [], [] => isTrue rfl
  | [], _ :: _ => isFalse nofun
  | _ :: _, [] => isFalse nofun
  | left :: lefts, right :: rights =>
      have := decEq left right
      have := decEqAll lefts rights
      decidable_of_iff (left = right ∧ lefts = rights) (by simp)
end

instance : DecidableEq Operation := decEq

end ChangeScript.Operation

namespace ChangeScript

instance : DecidableEq (Except Rejection (List Operation))
  | .ok left, .ok right => decidable_of_iff (left = right) (by simp)
  | .error left, .error right => decidable_of_iff (left = right) (by simp)
  | .ok _, .error _ => isFalse nofun
  | .error _, .ok _ => isFalse nofun

end ChangeScript

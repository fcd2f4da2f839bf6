/-
Counts read from decimal digits.

Digits are added up with a stop at the greatest number of 64 bits, in the
multiplication and in the addition of every digit.  Stopping at each digit gives
what stopping once at the end would give, so a count is the decimal value of its
digits or that greatest number, however many digits there are.
-/

import Mathlib.Data.Nat.Digits.Defs
import ChangeScript.Count

set_option autoImplicit false

namespace ChangeScript

namespace Count

structure Numeral (value : Text) : Prop where
  present : value ≠ []
  digits : ∀ c ∈ value, '0'.toNat ≤ c.toNat ∧ c.toNat ≤ '9'.toNat

theorem numeral_iff_isDigit {value : Text} :
    (value ≠ [] ∧ value.all Char.isDigit = true) ↔ Numeral value := by
  simp only [List.all_eq_true, Char.isDigit_iff_toNat]
  exact ⟨fun ⟨present, digits⟩ => ⟨present, digits⟩,
    fun numeral => ⟨numeral.present, numeral.digits⟩⟩

instance (value : Text) : Decidable (Numeral value) :=
  decidable_of_iff _ numeral_iff_isDigit

/-- The number that decimal digits denote.  The last digit counts the units. -/
def decimal (digits : Text) : Nat :=
  Nat.ofDigits 10 (digits.reverse.map fun digit => digit.toNat - '0'.toNat)

theorem decimal_snoc (digits : Text) (digit : Char) :
    decimal (digits ++ [digit]) = decimal digits * 10 + (digit.toNat - '0'.toNat) := by
  rw [decimal, List.reverse_concat, List.map_cons, Nat.ofDigits_cons, Nat.add_comm, Nat.mul_comm]
  rfl

theorem decimal_zeros_append (zeros : Nat) (digits : Text) :
    decimal (List.replicate zeros '0' ++ digits) = decimal digits := by
  rw [decimal, List.reverse_append, List.map_append, List.reverse_replicate, List.map_replicate]
  exact Nat.ofDigits_append_replicate_zero _

/-- Cutting a total before one more digit is appended, and its product with ten
on the way, changes nothing once the longer number is cut. -/
theorem appendDigit_min (total : Nat) (digit : Char) :
    appendDigit (min total ceiling) digit =
      min (total * 10 + (digit.toNat - '0'.toNat)) ceiling := by
  unfold appendDigit ceiling
  omega

theorem foldl_appendDigit_min (front digits : Text) :
    digits.foldl appendDigit (min (decimal front) ceiling) =
      min (decimal (front ++ digits)) ceiling := by
  induction digits generalizing front with
  | nil => rw [List.foldl_nil, List.append_nil]
  | cons digit rest ih =>
      rw [List.foldl_cons, appendDigit_min, ← decimal_snoc, ih, List.append_assoc,
        List.singleton_append]

theorem foldl_appendDigit (digits : Text) :
    digits.foldl appendDigit 0 = min (decimal digits) ceiling :=
  foldl_appendDigit_min [] digits

theorem ofText?_eq (value : Text) :
    ofText? value =
      if value = "all".toList then some .all
      else if Numeral value ∧ 0 < decimal value then some (.limit (min (decimal value) ceiling))
      else none := by
  unfold ofText?
  by_cases every : value = "all".toList
  · rw [if_pos every, if_pos every]
  · rw [if_neg every, if_neg every]
    by_cases numeral : Numeral value
    · rw [if_pos (numeral_iff_isDigit.mpr numeral), foldl_appendDigit]
      by_cases positive : 0 < decimal value
      · rw [if_pos ⟨numeral, positive⟩]
        have kept : 0 < min (decimal value) ceiling := by
          unfold ceiling
          omega
        obtain ⟨most, shape⟩ := Nat.exists_eq_succ_of_ne_zero (Nat.ne_of_gt kept)
        rw [shape]
      · rw [if_neg fun both => positive both.2, Nat.eq_zero_of_not_pos positive]
        rfl
    · rw [if_neg fun digits => numeral (numeral_iff_isDigit.mp digits),
        if_neg fun both => numeral both.1]

theorem ofText?_eq_all_iff {value : Text} :
    ofText? value = some .all ↔ value = "all".toList := by
  rw [ofText?_eq]
  constructor
  · intro read
    split at read
    · next every => exact every
    · split at read
      · cases read
      · cases read
  · exact fun every => if_pos every

theorem ofText?_eq_limit_iff {value : Text} {most : Nat} :
    ofText? value = some (.limit most) ↔
      Numeral value ∧ 0 < decimal value ∧ most = min (decimal value) ceiling := by
  rw [ofText?_eq]
  constructor
  · intro read
    split at read
    · cases read
    · split at read
      · next both =>
          cases read
          exact ⟨both.1, both.2, rfl⟩
      · cases read
  · rintro ⟨numeral, positive, rfl⟩
    have other : value ≠ "all".toList := by
      rintro rfl
      exact absurd numeral (by decide)
    rw [if_neg other, if_pos ⟨numeral, positive⟩]

theorem ofText?_eq_none_iff {value : Text} :
    ofText? value = none ↔ value ≠ "all".toList ∧ ¬(Numeral value ∧ 0 < decimal value) := by
  rw [ofText?_eq]
  constructor
  · intro refused
    split at refused
    · cases refused
    · next other =>
        split at refused
        · cases refused
        · next without => exact ⟨other, without⟩
  · rintro ⟨other, without⟩
    rw [if_neg other, if_neg without]

theorem numeral_zeros_append_iff (zeros : Nat) {value : Text} (present : value ≠ []) :
    Numeral (List.replicate zeros '0' ++ value) ↔ Numeral value := by
  constructor
  · intro numeral
    exact ⟨present, fun c member => numeral.digits c (List.mem_append_right _ member)⟩
  · intro numeral
    refine ⟨List.append_ne_nil_of_right_ne_nil _ present, ?_⟩
    intro c member
    rcases List.mem_append.mp member with zero | digit
    · rw [List.eq_of_mem_replicate zero]
      decide
    · exact numeral.digits c digit

private theorem zeros_append_ne_all {zeros : Nat} {value : Text} (other : value ≠ "all".toList) :
    List.replicate zeros '0' ++ value ≠ "all".toList := by
  cases zeros with
  | zero => exact other
  | succ zeros =>
      intro same
      have first : '0' = 'a' := (List.cons.inj same).1
      exact absurd first (by decide)

theorem ofText?_zeros_append (zeros : Nat) {value : Text} (other : value ≠ "all".toList) :
    ofText? (List.replicate zeros '0' ++ value) = ofText? value := by
  have same : (Numeral (List.replicate zeros '0' ++ value) ∧ 0 < decimal value) ↔
      Numeral value ∧ 0 < decimal value := by
    apply and_congr_left
    intro positive
    apply numeral_zeros_append_iff
    rintro rfl
    exact absurd positive (Nat.lt_irrefl 0)
  rw [ofText?_eq, ofText?_eq, if_neg (zeros_append_ne_all other), if_neg other,
    decimal_zeros_append, if_congr same rfl rfl]

/-- A count is the word for all, or the decimal value of one or more digits, cut
at the greatest number of 64 bits and never zero; no other text is a count.
Zeros in front do not matter, and the total behind every beginning of the digits
is the value of that beginning, cut in the same way. -/
theorem ofText?_exact (value : Text) :
    (ofText? value = some .all ↔ value = "all".toList) ∧
    (∀ most, ofText? value = some (.limit most) ↔
      Numeral value ∧ 0 < decimal value ∧ most = min (decimal value) (2 ^ 64 - 1)) ∧
    (ofText? value = none ↔
      value ≠ "all".toList ∧ ¬(Numeral value ∧ 0 < decimal value)) ∧
    (value ≠ "all".toList →
      ∀ zeros, ofText? (List.replicate zeros '0' ++ value) = ofText? value) ∧
    ∀ front, front <+: value →
      front.foldl appendDigit 0 = min (decimal front) (2 ^ 64 - 1) := by
  have greatest : 2 ^ 64 - 1 = ceiling := by decide
  rw [greatest]
  refine ⟨ofText?_eq_all_iff, fun most => ofText?_eq_limit_iff, ofText?_eq_none_iff, ?_, ?_⟩
  · exact fun other zeros => ofText?_zeros_append zeros other
  · exact fun front _ => foldl_appendDigit front

/-- The least number that is too great, behind a zero: its last digit but one
still fits, and the addition of its last digit does not. -/
theorem ofText?_exact_above_ceiling :
    "18446744073709551616".toList ≠ "all".toList ∧
    "1844674407370955161".toList <+: "18446744073709551616".toList ∧
    ofText? (List.replicate 1 '0' ++ "18446744073709551616".toList) =
      some (.limit 18446744073709551615) ∧
    "1844674407370955161".toList.foldl appendDigit 0 = 1844674407370955161 := by
  have other : "18446744073709551616".toList ≠ "all".toList := by decide
  have inside : "1844674407370955161".toList <+: "18446744073709551616".toList := by decide
  obtain ⟨_, limited, _, zeros, totals⟩ := ofText?_exact "18446744073709551616".toList
  refine ⟨other, inside, ?_, ?_⟩
  · rw [zeros other 1]
    exact (limited _).mpr (by decide)
  · rw [totals _ inside]
    decide

end Count

end ChangeScript

import BearerAuth.Decimal.Padded
import Mathlib.Algebra.Group.Nat.Defs
import Mathlib.Data.List.DropRight

/-!
# Padded decimals are the numbers they pad

A number that fits into a width has just that many digits (`length_padded`), and they make the
number again (`ofDigitChars_padded`). A fraction has lost nothing but zeros (`padded_eq_fraction`).
-/

namespace BearerAuth.Decimal

theorem length_padded {width n : Nat} (hpos : 0 < width) (h : n < 10 ^ width) :
    (padded width n).length = width := by
  have hle := (Nat.length_toDigits_le_iff (by decide) hpos).2 h
  unfold padded
  rw [List.length_append, List.length_replicate]
  omega

theorem isDigit_of_mem_padded (width n : Nat) : ∀ c ∈ padded width n, c.isDigit = true := by
  intro c hc
  rcases List.mem_append.1 hc with hc | hc
  · rw [List.eq_of_mem_replicate hc]
    rfl
  · exact Nat.isDigit_of_mem_toDigits (by decide) (by decide) hc

theorem ofDigitChars_padded (width n : Nat) : Nat.ofDigitChars 10 (padded width n) 0 = n := by
  unfold padded
  rw [Nat.ofDigitChars_append, Nat.ofDigitChars_replicate_zero, Nat.mul_zero,
    Nat.ofDigitChars_ten_toDigits]

theorem fraction_eq_rdropWhile (width n : Nat) :
    fraction width n = (padded width n).rdropWhile (· = '0') := rfl

/-- What a fraction has lost are zeros. -/
theorem padded_eq_fraction (width n : Nat) :
    ∃ k, padded width n = fraction width n ++ List.replicate k '0' := by
  have hzeros : ∀ c ∈ (padded width n).rtakeWhile (· = '0'), c = '0' := by
    intro c hc
    have := List.mem_rtakeWhile_imp hc
    exact of_decide_eq_true this
  refine ⟨((padded width n).rtakeWhile (· = '0')).length, ?_⟩
  rw [← List.eq_replicate_of_mem hzeros, fraction_eq_rdropWhile,
    List.rdropWhile_append_rtakeWhile]

theorem isDigit_of_mem_fraction (width n : Nat) : ∀ c ∈ fraction width n, c.isDigit = true := by
  obtain ⟨k, hk⟩ := padded_eq_fraction width n
  intro c hc
  exact isDigit_of_mem_padded width n c (hk ▸ List.mem_append_left _ hc)

theorem ofDigitChars_fraction {width n : Nat} (hpos : 0 < width) (h : n < 10 ^ width) :
    ∃ k, width = (fraction width n).length + k
      ∧ n = 10 ^ k * Nat.ofDigitChars 10 (fraction width n) 0 := by
  obtain ⟨k, hk⟩ := padded_eq_fraction width n
  refine ⟨k, ?_, ?_⟩
  · have hlength := length_padded hpos h
    rw [hk, List.length_append, List.length_replicate] at hlength
    exact hlength.symm
  · have hvalue := ofDigitChars_padded width n
    rw [hk, Nat.ofDigitChars_append, Nat.ofDigitChars_replicate_zero] at hvalue
    exact hvalue.symm

theorem getLast?_fraction (width n : Nat) : (fraction width n).getLast? ≠ some '0' := by
  rw [fraction_eq_rdropWhile]
  by_cases hnil : (padded width n).rdropWhile (· = '0') = []
  · rw [hnil]
    exact nofun
  · rw [List.getLast?_eq_some_getLast hnil]
    have hlast := List.rdropWhile_last_not _ _ hnil
    simpa using hlast

end BearerAuth.Decimal

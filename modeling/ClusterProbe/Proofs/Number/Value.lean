import ClusterProbe.Number.Binary64
import Mathlib.Algebra.Order.Field.Power
import Mathlib.Data.Rat.Cast.Order
import Mathlib.Tactic.Linarith
import Mathlib.Tactic.NormNum
import Mathlib.Tactic.Ring

/-!
# The number that a double stands for

A finite double stands for a rational number, its significand scaled by a power of two. Main
statement: two doubles are equal as numbers exactly if they stand for the same rational number, so
the two zeros are the only different doubles that are equal.
-/

namespace ClusterProbe.Binary64

/-- The absolute value. -/
def magnitude (x : Binary64) : ℚ := x.significand * (2 : ℚ) ^ x.exponent

/-- The rational number that a double stands for. -/
def value (x : Binary64) : ℚ := if x.negative then -x.magnitude else x.magnitude

section Fields

variable {x y : Binary64}

/-- The significand has at most 53 bits. -/
theorem significand_lt (x : Binary64) : x.significand < 2 ^ 53 := by
  have hpow : Nat.pow 2 52 = 2 ^ 52 := rfl
  have hfraction := x.fraction.isLt
  unfold significand
  split <;> omega

/-- The significand has all 53 bits unless the exponent is the least one. -/
theorem le_significand (h : x.biased.val ≠ 0) : 2 ^ 52 ≤ x.significand := by
  have hpow : Nat.pow 2 52 = 2 ^ 52 := rfl
  unfold significand
  rw [if_neg h]
  omega

/-- Only the zeros have no bit set in their significand. -/
theorem isZero_iff : x.isZero = true ↔ x.significand = 0 := by
  have hpow : Nat.pow 2 52 = 2 ^ 52 := rfl
  simp only [isZero, significand, Bool.and_eq_true, decide_eq_true_eq]
  split <;> omega

/-- Exponent and significand determine the two fields they are made of. -/
theorem fields_eq (he : x.exponent = y.exponent) (hs : x.significand = y.significand) :
    x.biased = y.biased ∧ x.fraction = y.fraction := by
  have hpow : Nat.pow 2 52 = 2 ^ 52 := rfl
  have hx := x.fraction.isLt
  have hy := y.fraction.isLt
  unfold exponent at he
  unfold significand at hs
  have hbiased : x.biased.val = y.biased.val := by
    split at hs <;> split at hs <;> omega
  rw [hbiased] at hs
  have hfraction : x.fraction.val = y.fraction.val := by
    split at hs <;> omega
  exact ⟨Fin.ext hbiased, Fin.ext hfraction⟩

end Fields

section Magnitude

variable {x y : Binary64}

theorem magnitude_eq_zero_iff : x.magnitude = 0 ↔ x.significand = 0 := by
  have hpow : (2 : ℚ) ^ x.exponent ≠ 0 := zpow_ne_zero _ (by norm_num)
  rw [magnitude, mul_eq_zero, or_iff_left hpow, Nat.cast_eq_zero]

theorem magnitude_nonneg (x : Binary64) : 0 ≤ x.magnitude :=
  mul_nonneg (Nat.cast_nonneg _) (zpow_nonneg (by norm_num) _)

/-- A double with the greater exponent has the greater magnitude: its significand has all its bits,
and a doubled one has more than the other can have. -/
theorem magnitude_lt_of_exponent_lt (h : x.exponent < y.exponent) : x.magnitude < y.magnitude := by
  have hbiased : y.biased.val ≠ 0 := by
    unfold exponent at h
    omega
  have hsignificand : (x.significand : ℚ) < y.significand * 2 := by
    have hx := x.significand_lt
    have hy := le_significand hbiased
    have hlt : x.significand < y.significand * 2 := by omega
    exact_mod_cast hlt
  have hunit : (0 : ℚ) < 2 ^ x.exponent := zpow_pos (by norm_num) _
  calc x.magnitude
      < y.significand * 2 * 2 ^ x.exponent := mul_lt_mul_of_pos_right hsignificand hunit
    _ = y.significand * 2 ^ (x.exponent + 1) := by rw [zpow_add_one₀ (by norm_num)]; ring
    _ ≤ y.magnitude := by
      refine mul_le_mul_of_nonneg_left ?_ (Nat.cast_nonneg _)
      exact zpow_le_zpow_right₀ (by norm_num) h

/-- The magnitude determines everything but the sign. -/
theorem fields_eq_of_magnitude_eq (h : x.magnitude = y.magnitude) :
    x.biased = y.biased ∧ x.fraction = y.fraction := by
  have he : x.exponent = y.exponent := by
    rcases lt_trichotomy x.exponent y.exponent with hlt | heq | hlt
    · exact absurd h (magnitude_lt_of_exponent_lt hlt).ne
    · exact heq
    · exact absurd h (magnitude_lt_of_exponent_lt hlt).ne'
  have hpow : (2 : ℚ) ^ y.exponent ≠ 0 := zpow_ne_zero _ (by norm_num)
  have hs : (x.significand : ℚ) = y.significand := by
    rw [magnitude, magnitude, he] at h
    exact mul_right_cancel₀ hpow h
  exact fields_eq he (by exact_mod_cast hs)

end Magnitude

/-- Numbers of different signs are equal only if they are zero. -/
theorem value_eq_of_negative_ne {x y : Binary64} (hsign : x.negative ≠ y.negative)
    (h : x.value = y.value) : x.magnitude = 0 ∧ y.magnitude = 0 := by
  have hx := x.magnitude_nonneg
  have hy := y.magnitude_nonneg
  unfold value at h
  cases hn : x.negative with
  | true =>
    rw [hn, Bool.eq_false_of_not_eq_true (fun hy ↦ hsign (hn.trans hy.symm))] at h
    simp only [if_true, Bool.false_eq_true, if_false] at h
    constructor <;> linarith
  | false =>
    rw [hn, Bool.eq_true_of_not_eq_false (fun hy ↦ hsign (hn.trans hy.symm))] at h
    simp only [if_true, Bool.false_eq_true, if_false] at h
    constructor <;> linarith

/-- Numbers of one sign are equal only if they are the same double. -/
theorem eq_of_value_eq {x y : Binary64} (hsign : x.negative = y.negative)
    (h : x.value = y.value) : x = y := by
  have hmagnitude : x.magnitude = y.magnitude := by
    unfold value at h
    rw [hsign] at h
    split at h
    · exact neg_injective h
    · exact h
  obtain ⟨hbiased, hfraction⟩ := fields_eq_of_magnitude_eq hmagnitude
  cases x
  cases y
  cases hsign
  cases hbiased
  cases hfraction
  rfl

/-- Doubles are equal as numbers exactly if they stand for the same number. -/
theorem same_iff_value_eq (x y : Binary64) : x.same y = true ↔ x.value = y.value := by
  rw [same, Bool.or_eq_true, decide_eq_true_eq, Bool.and_eq_true, isZero_iff, isZero_iff,
    ← magnitude_eq_zero_iff, ← magnitude_eq_zero_iff]
  constructor
  · rintro (rfl | ⟨hx, hy⟩)
    · rfl
    · rw [value, value, hx, hy, neg_zero, ite_self, ite_self]
  · intro h
    by_cases hsign : x.negative = y.negative
    · exact .inl (eq_of_value_eq hsign h)
    · exact .inr (value_eq_of_negative_ne hsign h)

end ClusterProbe.Binary64

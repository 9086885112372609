import Mathlib.Algebra.Order.Field.Basic
import Mathlib.Algebra.Order.Field.Rat
import Mathlib.Tactic.FieldSimp
import Mathlib.Tactic.Linarith
import Mathlib.Tactic.Ring
import TrajectoryFormat.Decimal

/-!
# The numbers that decimals stand for

A decimal stands for its coefficient over a power of ten. Comparison is that of the numbers, the
integer part is less than one away from the number, and an operation that rounds still keeps the
sign of its exact result.
-/

namespace TrajectoryFormat.Decimal

open Number

/-- The number that a decimal stands for. -/
def value (d : Decimal) : ℚ := d.coefficient / tenTo d.scale

theorem tenTo_eq_pow (n : Nat) : tenTo n = 10 ^ n := rfl

theorem tenTo_cast_pos (n : Nat) : (0 : ℚ) < tenTo n := by exact_mod_cast tenTo_pos n

theorem coefficient_eq (d : Decimal) : (d.coefficient : ℚ) = d.value * tenTo d.scale := by
  have := (tenTo_cast_pos d.scale).ne'
  rw [value, div_mul_cancel₀ _ this]

theorem value_of_scale_zero {d : Decimal} (h : d.scale = 0) : d.value = d.coefficient := by
  rw [value, h, tenTo_zero, Nat.cast_one, div_one]

theorem value_nonneg_iff (d : Decimal) : 0 ≤ d.value ↔ 0 ≤ d.coefficient := by
  have := tenTo_cast_pos d.scale
  rw [value, le_div_iff₀ this, zero_mul, Int.cast_nonneg_iff]

@[simp] theorem value_neg (d : Decimal) : d.neg.value = -d.value := by
  simp [value, neg, neg_div]

/-- The order of decimals is the order of the numbers. -/
theorem lt_iff (a b : Decimal) : a.lt b = true ↔ a.value < b.value := by
  have ha := tenTo_cast_pos a.scale
  have hb := tenTo_cast_pos b.scale
  rw [lt, decide_eq_true_iff, value, value, div_lt_div_iff₀ ha hb]
  exact_mod_cast Iff.rfl

theorem toInt_nonneg {d : Decimal} (h : 0 ≤ d.value) : 0 ≤ d.toInt :=
  Int.tdiv_nonneg ((value_nonneg_iff d).mp h) (Int.natCast_nonneg _)

/-- Cutting the places off moves a number by less than one. -/
theorem toInt_error (d : Decimal) : |(d.toInt : ℚ) - d.value| < 1 := by
  have hp := tenTo_cast_pos d.scale
  have rest : (d.coefficient : ℚ)
      = tenTo d.scale * d.toInt + d.coefficient.tmod (tenTo d.scale) := by
    exact_mod_cast (Int.mul_tdiv_add_tmod d.coefficient (tenTo d.scale)).symm
  have small : |(d.coefficient.tmod (tenTo d.scale) : ℚ)| < tenTo d.scale := by
    have h : (d.coefficient.tmod (tenTo d.scale)).natAbs < tenTo d.scale := by
      rw [Int.natAbs_tmod, Int.natAbs_natCast]
      exact Nat.mod_lt _ (tenTo_pos _)
    rw [← Int.cast_abs, Int.abs_eq_natAbs]
    exact_mod_cast h
  have error : (d.toInt : ℚ) - d.value = -d.coefficient.tmod (tenTo d.scale) / tenTo d.scale := by
    rw [value, rest]
    field_simp
    ring
  rw [error, abs_div, abs_neg, abs_of_pos hp, div_lt_one hp]
  exact small

theorem toInt_of_value {d : Decimal} {n : Int} (h : d.value = n) : d.toInt = n := by
  have near := toInt_error d
  rw [h, ← Int.cast_sub, ← Int.cast_abs, ← Int.cast_one, Int.cast_lt, Int.abs_lt_one_iff] at near
  omega

theorem value_of_make? {c : Int} {s : Nat} {d : Decimal} (h : make? c s = some d) :
    d.value = c / tenTo s := by
  rw [value, (make?_eq_some h).1, (make?_eq_some h).2]

/-- A power of ten that is in range is exact. -/
theorem value_of_powerOfTen? {n : Nat} {d : Decimal} (h : powerOfTen? n = some d) :
    d.value = 10 ^ n := by
  unfold powerOfTen? at h
  split at h
  · rw [value_of_make? h, tenTo_zero, tenTo_eq_pow]
    norm_num
  · simp at h

/-- Rounding to the bounds never turns a number below zero. -/
theorem fit?_nonneg {c : Int} {s : Nat} {d : Decimal} (hc : 0 ≤ c) (h : fit? c s = some d) :
    0 ≤ d.value := by
  obtain ⟨dropped, _, hd⟩ := List.exists_of_findSome?_eq_some h
  rw [value_nonneg_iff, (make?_eq_some hd).1]
  exact mul_nonneg (Int.sign_nonneg_iff.mpr hc) (Int.natCast_nonneg _)

theorem aligned_sum (a b : Decimal) :
    ((a.coefficient * tenTo (max a.scale b.scale - a.scale)
      + b.coefficient * tenTo (max a.scale b.scale - b.scale) : Int) : ℚ)
      = (a.value + b.value) * tenTo (max a.scale b.scale) := by
  have ha : tenTo (max a.scale b.scale)
      = tenTo a.scale * tenTo (max a.scale b.scale - a.scale) := by
    rw [← tenTo_add, Nat.add_sub_cancel' (le_max_left _ _)]
  have hb : tenTo (max a.scale b.scale)
      = tenTo b.scale * tenTo (max a.scale b.scale - b.scale) := by
    rw [← tenTo_add, Nat.add_sub_cancel' (le_max_right _ _)]
  calc _ = a.value * (tenTo a.scale * tenTo (max a.scale b.scale - a.scale) : Nat)
        + b.value * (tenTo b.scale * tenTo (max a.scale b.scale - b.scale) : Nat) := by
          push_cast
          rw [coefficient_eq a, coefficient_eq b]
          ring
    _ = _ := by rw [← ha, ← hb, add_mul]

theorem value_of_coefficient_zero {d : Decimal} (h : d.coefficient = 0) : d.value = 0 := by
  rw [value, h, Int.cast_zero, zero_div]

theorem add?_nonneg {a b c : Decimal} (h : 0 ≤ a.value + b.value) (sum : a.add? b = some c) :
    0 ≤ c.value := by
  unfold add? at sum
  split at sum
  · next ha =>
    cases sum
    rwa [value_of_coefficient_zero ha, zero_add] at h
  · split at sum
    · next hb =>
      cases sum
      rwa [value_of_coefficient_zero hb, add_zero] at h
    · apply fit?_nonneg _ sum
      have aligned := aligned_sum a b
      have : (0 : ℚ) ≤ (a.value + b.value) * tenTo (max a.scale b.scale) :=
        mul_nonneg h (tenTo_cast_pos _).le
      rw [← aligned] at this
      exact_mod_cast this

/-- What is taken from a number that is no smaller leaves nothing below zero, rounded or not. -/
theorem sub?_nonneg {a b c : Decimal} (h : b.value ≤ a.value) (difference : a.sub? b = some c) :
    0 ≤ c.value := by
  apply add?_nonneg _ difference
  rw [value_neg]
  linarith

theorem mul?_nonneg {a b c : Decimal} (ha : 0 ≤ a.value) (hb : 0 ≤ b.value)
    (product : a.mul? b = some c) : 0 ≤ c.value := by
  unfold mul? at product
  split at product
  · cases product
    exact (value_of_coefficient_zero rfl).ge
  · rw [value_nonneg_iff] at ha hb
    exact fit?_nonneg (mul_nonneg ha hb) product

end TrajectoryFormat.Decimal

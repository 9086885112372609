import TrajectoryFormat.Proofs.Decimal.Value

/-!
# Exact sums of decimals

What a sum comes to depends on the numbers that are added, whatever places they are written with. A
number that some decimal stands for is therefore never rounded: a sum or a difference is exact just
where its exact value is such a number.
-/

namespace TrajectoryFormat

namespace Number

/-- A quotient is rounded alike when both its terms are scaled. -/
theorem nearestEven_mul {k : Nat} (positive : 0 < k) (n d : Nat) :
    nearestEven (n * k) (d * k) = nearestEven n d := by
  have rest : 2 * (n * k % (d * k)) = 2 * (n % d) * k := by
    rw [Nat.mul_mod_mul_right, Nat.mul_assoc]
  have larger : d * k < 2 * (n % d) * k ↔ d < 2 * (n % d) := Nat.mul_lt_mul_right positive
  have equal : 2 * (n % d) * k = d * k ↔ 2 * (n % d) = d := Nat.mul_left_inj positive.ne'
  simp only [nearestEven, rest, Nat.mul_div_mul_right _ _ positive, larger, beq_eq_decide, equal]

end Number

namespace Decimal

open Number

variable {a b a' b' d : Decimal}

/-! ## Rounding and the number -/

/-- One place more is dropped first, or is kept where it fits. -/
theorem fit?_mul_ten (c : Int) (s : Nat) :
    fit? (c * 10) (s + 1) = (make? (c * 10) (s + 1)).or (fit? c s) := by
  have sign : (c * 10).sign = c.sign := by
    rw [Int.sign_mul]
    exact mul_one _
  have size : (c * 10).natAbs = c.natAbs * 10 := Int.natAbs_mul c 10
  have kept : c.sign * ((c.natAbs * 10 : Nat) : Int) = c * 10 := by
    rw [← size, ← sign, Int.sign_mul_natAbs]
  have dropped (n : Nat) : nearestEven (c.natAbs * 10) (tenTo (n + 1))
      = nearestEven c.natAbs (tenTo n) :=
    nearestEven_mul (by decide) _ _
  rw [fit?, fit?, List.range_succ_eq_map, List.findSome?_cons, List.findSome?_map, tenTo_zero,
    nearestEven_one, sign, size, kept, Nat.sub_zero]
  cases make? (c * 10) (s + 1) with
  | some d => rfl
  | none =>
    simp only [Option.none_or, Function.comp_def, Nat.succ_eq_add_one, dropped,
      Nat.add_sub_add_right]

theorem map_value_fit?_mul_ten (c : Int) (s : Nat) :
    (fit? (c * 10) (s + 1)).map value = (fit? c s).map value := by
  rw [fit?_mul_ten]
  cases kept : make? (c * 10) (s + 1) with
  | none => rw [Option.none_or]
  | some d =>
    -- where the place fits, so does what is left without it
    obtain ⟨coefficient, scale⟩ := make?_eq_some kept
    have small := d.coefficient_lt
    have few := d.scale_le
    have fits : c.natAbs < coefficientLimit := by omega
    rw [Option.some_or, fit?_of_fits fits (by omega), Option.map_some, Option.map_some,
      value_of_make? kept, value, tenTo_succ]
    push_cast
    rw [mul_div_mul_right _ _ (by norm_num)]

theorem map_value_fit?_mul (c : Int) (s n : Nat) :
    (fit? (c * tenTo n) (s + n)).map value = (fit? c s).map value := by
  induction n with
  | zero => rw [tenTo_zero, Nat.cast_one, mul_one, Nat.add_zero]
  | succ n ih =>
    have split : c * (tenTo (n + 1) : Int) = c * tenTo n * 10 := by
      rw [tenTo_succ, Nat.cast_mul, mul_assoc]
      rfl
    rw [split, ← Nat.add_assoc, map_value_fit?_mul_ten, ih]

/-- Rounding depends on the number only, not on the places that it is written with. -/
theorem map_value_fit?_congr {c c' : Int} {s s' : Nat} (same : (c : ℚ) / tenTo s = c' / tenTo s') :
    (fit? c s).map value = (fit? c' s').map value := by
  wlog fewer : s ≤ s' generalizing c c' s s'
  · exact (this same.symm (Nat.le_of_not_le fewer)).symm
  obtain ⟨n, rfl⟩ := Nat.exists_eq_add_of_le fewer
  have scaled : c' = c * tenTo n := by
    rw [eq_div_iff (tenTo_cast_pos _).ne', tenTo_add, Nat.cast_mul, ← mul_assoc,
      div_mul_cancel₀ _ (tenTo_cast_pos _).ne'] at same
    exact_mod_cast same.symm
  rw [scaled, map_value_fit?_mul]

/-- The number of a decimal is not rounded, whatever places it is written with. -/
theorem map_value_fit?_of_value {c : Int} {s : Nat} (exact : (c : ℚ) / tenTo s = d.value) :
    (fit? c s).map value = some d.value := by
  rw [map_value_fit?_congr exact, fit?_of_fits d.coefficient_lt d.scale_le, Option.map_some]

/-! ## Sums and differences -/

/-- A sum is its exact value, rounded. -/
theorem map_value_add? (a b : Decimal) :
    (a.add? b).map value =
      (fit? (a.coefficient * tenTo (max a.scale b.scale - a.scale)
        + b.coefficient * tenTo (max a.scale b.scale - b.scale)) (max a.scale b.scale)).map
          value := by
  have aligned := (div_eq_iff (tenTo_cast_pos (max a.scale b.scale)).ne').mpr (aligned_sum a b)
  unfold add?
  split
  · next zero =>
    rw [value_of_coefficient_zero zero, zero_add] at aligned
    rw [map_value_fit?_of_value aligned, Option.map_some]
  · split
    · next zero =>
      rw [value_of_coefficient_zero zero, add_zero] at aligned
      rw [map_value_fit?_of_value aligned, Option.map_some]
    · rfl

theorem map_value_add?_congr (same : a.value + b.value = a'.value + b'.value) :
    (a.add? b).map value = (a'.add? b').map value := by
  rw [map_value_add?, map_value_add?]
  apply map_value_fit?_congr
  rw [aligned_sum, aligned_sum, mul_div_cancel_right₀ _ (tenTo_cast_pos _).ne',
    mul_div_cancel_right₀ _ (tenTo_cast_pos _).ne', same]

/-- A sum that some decimal stands for is exact. -/
theorem map_value_add?_of_value (exact : a.value + b.value = d.value) :
    (a.add? b).map value = some d.value := by
  have none : zero.value = 0 := value_of_coefficient_zero rfl
  have added : a.value + b.value = zero.value + d.value := by rw [none, zero_add, exact]
  rw [map_value_add?_congr added]
  rfl

/-- The numbers that some decimal stands for. -/
def IsDecimal (q : ℚ) : Prop := ∃ d : Decimal, d.value = q

theorem isDecimal_iff_add? : IsDecimal (a.value + b.value) ↔
    (a.add? b).map value = some (a.value + b.value) := by
  constructor
  · intro ⟨d, exact⟩
    rw [← exact]
    exact map_value_add?_of_value exact.symm
  · intro sum
    obtain ⟨d, _, exact⟩ := Option.map_eq_some_iff.mp sum
    exact ⟨d, exact⟩

/-- A difference is exact just where some decimal stands for it. -/
theorem isDecimal_iff_sub? : IsDecimal (a.value - b.value) ↔
    (a.sub? b).map value = some (a.value - b.value) := by
  rw [sub?, sub_eq_add_neg, ← value_neg]
  exact isDecimal_iff_add?

theorem isDecimal_of_fits {q : ℚ} {c : Int} {s : Nat} (exact : q * tenTo s = c) (places : s ≤ 28)
    (size : c.natAbs < coefficientLimit) : IsDecimal q := by
  refine ⟨⟨c, s, size, places⟩, ?_⟩
  rw [value, ← exact, mul_div_cancel_right₀ _ (tenTo_cast_pos _).ne']

/-- The coefficient that a decimal has when it is written with more places. -/
theorem value_mul_tenTo {places : Nat} (more : d.scale ≤ places) :
    d.value * tenTo places = d.coefficient * tenTo (places - d.scale) := by
  obtain ⟨n, rfl⟩ := Nat.exists_eq_add_of_le more
  rw [Nat.add_sub_cancel_left, tenTo_add, Nat.cast_mul, ← mul_assoc, ← coefficient_eq]

end Decimal

end TrajectoryFormat

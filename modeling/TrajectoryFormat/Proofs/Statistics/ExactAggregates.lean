import Mathlib.Algebra.BigOperators.Ring.Multiset
import Mathlib.Algebra.Order.BigOperators.Group.Multiset
import Mathlib.Algebra.Order.Field.Basic
import Mathlib.Order.Bounds.Basic
import Mathlib.Tactic.FieldSimp
import Mathlib.Tactic.Linarith
import Mathlib.Tactic.Ring
import TrajectoryFormat.Statistics.Aggregate

/-!
# Aggregates of exact numbers

Where numbers are reckoned with exactly, the sums and extrema that an aggregate keeps give the
extrema, the mean and the variance of its values, as they are defined over all values at once.
Nothing hangs on the order in which the values are added.
-/

namespace TrajectoryFormat.Statistics

/-- A reading of numbers as elements of an ordered field, in which every operation is exact. Roots,
and what stands above and below all numbers, are not read. -/
structure ExactReading (α K : Type) [Measure α] [Field K] [LinearOrder K] where
  value : α → K
  value_add : ∀ x y : α, value (x + y) = value x + value y
  value_sub : ∀ x y : α, value (x - y) = value x - value y
  value_mul : ∀ x y : α, value (x * y) = value x * value y
  value_div : ∀ x y : α, value y ≠ 0 → value (x / y) = value x / value y
  value_ofNat : ∀ n : Nat, value (Measure.ofNat n) = n
  value_magnitude : ∀ x : α, value (Measure.magnitude x) = |value x|
  less_iff : ∀ x y : α, Measure.less x y = true ↔ value x < value y
  isZero_iff : ∀ x : α, Measure.isZero x = true ↔ value x = 0
  isNumber : ∀ x : α, Measure.isNumber x = true

/-! ## Extrema -/

section Extrema
variable {β : Type}

theorem setOf_mem_cons (a : β) (values : Multiset β) :
    {x | x ∈ a ::ₘ values} = insert a {x | x ∈ values} :=
  Set.ext fun _ => Multiset.mem_cons

variable [LinearOrder β]

theorem isLeast_cons_min {values : Multiset β} {m : β}
    (least : IsLeast {x | x ∈ values} m) (a : β) :
    IsLeast {x | x ∈ a ::ₘ values} (min a m) := by
  rw [setOf_mem_cons]
  exact least.insert a

theorem isGreatest_cons_max {values : Multiset β} {m : β}
    (greatest : IsGreatest {x | x ∈ values} m) (a : β) :
    IsGreatest {x | x ∈ a ::ₘ values} (max a m) := by
  rw [setOf_mem_cons]
  exact greatest.insert a

/-- The least of values and of two others, of which one is the least of a group and one is in it, is
the least of the values and the group. -/
theorem isLeast_of_ends {values group : Multiset β} {low inside m : β}
    (least : IsLeast {x | x ∈ group} low) (mem : inside ∈ group)
    (ends : IsLeast {x | x ∈ inside ::ₘ low ::ₘ values} m) :
    IsLeast {x | x ∈ group + values} m := by
  obtain ⟨place, below⟩ := ends
  have below_low : m ≤ low := below (by simp)
  constructor
  · rcases Multiset.mem_cons.mp place with rfl | place
    · exact Multiset.mem_add.mpr (.inl mem)
    · rcases Multiset.mem_cons.mp place with rfl | place
      · exact Multiset.mem_add.mpr (.inl least.1)
      · exact Multiset.mem_add.mpr (.inr place)
  · intro x mem
    rcases Multiset.mem_add.mp mem with here | here
    · exact below_low.trans (least.2 here)
    · exact below (by simp [here])

theorem isGreatest_of_ends {values group : Multiset β} {high inside m : β}
    (greatest : IsGreatest {x | x ∈ group} high) (mem : inside ∈ group)
    (ends : IsGreatest {x | x ∈ high ::ₘ inside ::ₘ values} m) :
    IsGreatest {x | x ∈ group + values} m := by
  rw [Multiset.cons_swap] at ends
  exact isLeast_of_ends (β := βᵒᵈ) greatest mem ends

end Extrema

variable {α K : Type} [Measure α] [Field K]

/-! ## Two passes over values -/

/-- The mean of values, zero where there are none. -/
def average (values : Multiset K) : K := values.sum / values.card

/-- The mean squared distance from the mean. -/
def spread (values : Multiset K) : K := average (values.map fun m => (m - average values) ^ 2)

theorem spread_eq (values : Multiset K) :
    spread values = (values.map fun m => (m - average values) ^ 2).sum / values.card := by
  rw [spread]
  generalize average values = mean
  rw [average, Multiset.card_map]

theorem sum_sq_sub (values : Multiset K) (c : K) :
    (values.map fun m => (m - c) ^ 2).sum
      = (values.map (· ^ 2)).sum - 2 * c * values.sum + values.card * c ^ 2 := by
  induction values using Multiset.induction with
  | empty => simp
  | cons m rest ih =>
    simp only [Multiset.map_cons, Multiset.sum_cons, Multiset.card_cons, ih, Nat.cast_add,
      Nat.cast_one]
    ring

variable [LinearOrder K]

section Ordered
variable [IsStrictOrderedRing K]

theorem card_pos {values : Multiset K} (nonempty : values ≠ 0) : (0 : K) < values.card :=
  Nat.cast_pos.mpr (Multiset.card_pos.mpr nonempty)

/-- The squared distances from the mean, by the sums of the values and of their squares. -/
theorem sum_sq_sub_average {values : Multiset K} (nonempty : values ≠ 0) :
    (values.map fun m => (m - average values) ^ 2).sum
      = (values.map (· ^ 2)).sum - values.sum * values.sum / values.card := by
  have := (card_pos nonempty).ne'
  rw [sum_sq_sub, average]
  field_simp
  ring

theorem sum_sq_sub_nonneg (values : Multiset K) (c : K) :
    0 ≤ (values.map fun m => (m - c) ^ 2).sum := by
  apply Multiset.sum_nonneg
  intro x mem
  obtain ⟨m, _, rfl⟩ := Multiset.mem_map.mp mem
  exact sq_nonneg _

theorem le_average {values : Multiset K} {a : K} (nonempty : values ≠ 0)
    (below : ∀ m ∈ values, a ≤ m) :
    a ≤ average values := by
  rw [average, le_div_iff₀ (card_pos nonempty), mul_comm, ← nsmul_eq_mul]
  exact Multiset.card_nsmul_le_sum below

theorem average_le {values : Multiset K} {a : K} (nonempty : values ≠ 0)
    (above : ∀ m ∈ values, m ≤ a) :
    average values ≤ a := by
  rw [average, div_le_iff₀ (card_pos nonempty), mul_comm, ← nsmul_eq_mul]
  exact Multiset.sum_le_card_nsmul _ _ above

end Ordered

namespace ExactReading

variable (v : ExactReading α K)

@[simp] theorem value_zero : v.value Measure.zero = 0 := by
  rw [Measure.zero, v.value_ofNat, Nat.cast_zero]

theorem value_lower (m x : α) : v.value (Range.lower (some m) x) = min (v.value x) (v.value m) := by
  rw [Range.lower]
  split
  · next less => exact (min_eq_left ((v.less_iff x m).mp less).le).symm
  · next notLess =>
    exact (min_eq_right (not_lt.mp fun less => notLess ((v.less_iff x m).mpr less))).symm

theorem value_higher (m x : α) :
    v.value (Range.higher (some m) x) = max (v.value x) (v.value m) := by
  rw [Range.higher]
  split
  · next less => exact (max_eq_left ((v.less_iff m x).mp less).le).symm
  · next notLess =>
    exact (max_eq_right (not_lt.mp fun less => notLess ((v.less_iff m x).mpr less))).symm

/-- The range keeps the least and the greatest of the values, if there are any. -/
inductive Spans : Range α → Multiset K → Prop
  | empty : Spans {} 0
  | between {low high : α} {values : Multiset K} (least : IsLeast {x | x ∈ values} (v.value low))
      (greatest : IsGreatest {x | x ∈ values} (v.value high)) : Spans ⟨some low, some high⟩ values

namespace Spans

variable {v : ExactReading α K} {r s : Range α} {values others : Multiset K}

theorem add (h : v.Spans r values) (x : α) : v.Spans (r.add x) (v.value x ::ₘ values) := by
  rw [Range.add, if_pos (v.isNumber x)]
  cases h with
  | empty => exact .between (by simp [Range.lower]) (by simp [Range.higher])
  | between least greatest =>
    refine .between ?_ ?_
    · rw [value_lower]
      exact isLeast_cons_min least _
    · rw [value_higher]
      exact isGreatest_cons_max greatest _

/-- Merging goes through the two ends of the other range alone. -/
theorem merge (h : v.Spans r values) (other : v.Spans s others) (nonempty : others ≠ 0) :
    v.Spans (r.merge s) (others + values) := by
  cases other with
  | empty => exact absurd rfl nonempty
  | @between low high _ least greatest =>
    have ends : v.Spans (r.merge ⟨some low, some high⟩) (v.value high ::ₘ v.value low ::ₘ values) :=
      (h.add low).add high
    generalize merged : r.merge ⟨some low, some high⟩ = merged at ends ⊢
    generalize bounds : v.value high ::ₘ v.value low ::ₘ values = bounds at ends
    cases ends with
    | empty => exact absurd bounds (Multiset.cons_ne_zero)
    | between lowest highest =>
      rw [← bounds] at lowest highest
      exact .between (isLeast_of_ends least greatest.1 lowest)
        (isGreatest_of_ends greatest least.1 highest)

theorem least (h : v.Spans r values) (nonempty : values ≠ 0) :
    IsLeast {x | x ∈ values} (v.value r.low) := by
  cases h with
  | empty => exact absurd rfl nonempty
  | between least _ => exact least

theorem greatest (h : v.Spans r values) (nonempty : values ≠ 0) :
    IsGreatest {x | x ∈ values} (v.value r.high) := by
  cases h with
  | empty => exact absurd rfl nonempty
  | between _ greatest => exact greatest

end Spans

/-! ## Aggregates -/

/-- What an aggregate keeps of the values that were added to it, in whatever order. -/
structure Keeps (a : Aggregate α) (values : Multiset K) : Prop where
  sum : v.value a.sum = values.sum
  sumOfSquares : v.value a.sumOfSquares = (values.map (· ^ 2)).sum
  range : v.Spans a.range values
  count : a.count = values.card

/-- The summary of an aggregate is that of its values over two passes: the first for their extrema
and their mean, the second for their squared distances from the mean. What the magnitude is taken of
in the variance is not negative. -/
structure Summarizes (a : Aggregate α) (values : Multiset K) : Prop where
  least : IsLeast {x | x ∈ values} (v.value a.summary.min)
  greatest : IsGreatest {x | x ∈ values} (v.value a.summary.max)
  mean : v.value a.summary.mean = average values
  variance : v.value a.variance = spread values
  deviation : a.summary.deviation = Measure.squareRoot a.variance
  unsigned : 0 ≤ v.value (a.sumOfSquares - a.sum * a.sum / Measure.ofNat a.count)
  least_le_mean : v.value a.summary.min ≤ v.value a.summary.mean
  mean_le_greatest : v.value a.summary.mean ≤ v.value a.summary.max

namespace Keeps

variable {v : ExactReading α K} {a : Aggregate α} {values : Multiset K}

theorem empty (v : ExactReading α K) : v.Keeps .empty 0 := ⟨v.value_zero, v.value_zero, .empty, rfl⟩

theorem add (h : v.Keeps a values) (x : α) : v.Keeps (a.add x) (v.value x ::ₘ values) where
  sum := by rw [Aggregate.add, v.value_add, h.sum, Multiset.sum_cons, add_comm]
  sumOfSquares := by
    rw [Aggregate.add, v.value_add, v.value_mul, h.sumOfSquares, Multiset.map_cons,
      Multiset.sum_cons, sq, add_comm]
  range := h.range.add x
  count := by rw [Aggregate.add, h.count, Multiset.card_cons]

theorem count_ne_zero (h : v.Keeps a values) (nonempty : values ≠ 0) : a.count ≠ 0 :=
  h.count ▸ (Multiset.card_pos.mpr nonempty).ne'

variable [IsStrictOrderedRing K]

theorem value_div_count (h : v.Keeps a values) (nonempty : values ≠ 0) (x : α) :
    v.value (x / Measure.ofNat a.count) = v.value x / values.card := by
  have count : v.value (Measure.ofNat a.count) = values.card := by rw [v.value_ofNat, h.count]
  rw [v.value_div _ _ (count ▸ (card_pos nonempty).ne'), count]

/-- The sums that are kept give the squared distances from the mean. -/
theorem value_squares (h : v.Keeps a values) (nonempty : values ≠ 0) :
    v.value (a.sumOfSquares - a.sum * a.sum / Measure.ofNat a.count)
      = (values.map fun m => (m - average values) ^ 2).sum := by
  rw [v.value_sub, h.value_div_count nonempty, v.value_mul, h.sumOfSquares, h.sum,
    sum_sq_sub_average nonempty]

theorem value_variance (h : v.Keeps a values) (nonempty : values ≠ 0) :
    v.value a.variance = spread values := by
  rw [Aggregate.variance, if_neg (h.count_ne_zero nonempty), h.value_div_count nonempty,
    v.value_magnitude, h.value_squares nonempty,
    abs_of_nonneg (sum_sq_sub_nonneg values _), spread_eq]

theorem value_mean (h : v.Keeps a values) (nonempty : values ≠ 0) :
    v.value a.mean = average values := by
  rw [Aggregate.mean, if_neg (h.count_ne_zero nonempty), h.value_div_count nonempty, h.sum, average]

theorem summarizes (h : v.Keeps a values) (nonempty : values ≠ 0) : v.Summarizes a values := by
  have summary : a.summary = ⟨a.range.low, a.range.high, a.mean, a.deviation⟩ :=
    if_neg (h.count_ne_zero nonempty)
  have least := h.range.least nonempty
  have greatest := h.range.greatest nonempty
  constructor
  case least => rwa [summary]
  case greatest => rwa [summary]
  case mean => rw [summary, h.value_mean nonempty]
  case variance => exact h.value_variance nonempty
  case deviation => rw [summary, Aggregate.deviation]
  case unsigned => exact h.value_squares nonempty ▸ sum_sq_sub_nonneg values _
  case least_le_mean =>
    rw [summary, h.value_mean nonempty]
    exact le_average nonempty fun m mem => least.2 mem
  case mean_le_greatest =>
    rw [summary, h.value_mean nonempty]
    exact average_le nonempty fun m mem => greatest.2 mem

end Keeps

end ExactReading

end TrajectoryFormat.Statistics

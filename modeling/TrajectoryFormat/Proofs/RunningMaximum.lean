import Mathlib.Data.List.Chain
import TrajectoryFormat.Proofs.Decimal.Value
import TrajectoryFormat.Record.Series

/-!
# The running maximum

Raising every value to the one before it makes a column climb. The result at each place is the
greatest of the values up to there, it is the column itself where that climbs already, and so a
second pass changes nothing.
-/

namespace TrajectoryFormat.Record.Series

open Decimal

/-- The greatest of the numbers up to each place. -/
def runningMaximum : List ℚ → List ℚ
  | [] => []
  | v :: rest => rest.scanl max v

/-- Neighbours that do not go down. -/
def Climbs (values : List Decimal) : Prop := values.IsChain fun a b => a.value ≤ b.value

@[simp] theorem length_climb (previous : Decimal) (values : List Decimal) :
    (climb previous values).length = values.length := by
  induction values generalizing previous with
  | nil => rfl
  | cons v rest ih => simp only [climb, List.length_cons, ih]

@[simp] theorem length_monotonic (values : List Decimal) :
    (monotonic values).length = values.length := by
  cases values with
  | nil => rfl
  | cons v rest => simp only [monotonic, List.length_cons, length_climb]

@[simp] theorem length_runningMaximum (numbers : List ℚ) :
    (runningMaximum numbers).length = numbers.length := by
  cases numbers with
  | nil => rfl
  | cons v rest => rw [runningMaximum, List.length_scanl, List.length_cons]

theorem value_raised (previous v : Decimal) :
    (if v.lt previous then previous else v).value = max previous.value v.value := by
  split
  · next h => exact (max_eq_left ((lt_iff v previous).mp h).le).symm
  · next h =>
    rw [lt_iff, not_lt] at h
    exact (max_eq_right h).symm

theorem map_value_climb (previous : Decimal) (values : List Decimal) :
    previous.value :: (climb previous values).map value
      = (values.map value).scanl max previous.value := by
  induction values generalizing previous with
  | nil => rfl
  | cons v rest ih => rw [climb, List.map_cons, ih, value_raised, List.map_cons, List.scanl_cons]

@[simp] theorem map_value_monotonic (values : List Decimal) :
    (monotonic values).map value = runningMaximum (values.map value) := by
  cases values with
  | nil => rfl
  | cons v rest => rw [monotonic, List.map_cons, map_value_climb, List.map_cons, runningMaximum]

theorem climbs_climb (previous : Decimal) (values : List Decimal) :
    Climbs (previous :: climb previous values) := by
  induction values generalizing previous with
  | nil => exact .singleton _
  | cons v rest ih =>
    refine .cons_cons ?_ (ih _)
    rw [value_raised]
    exact le_max_left _ _

theorem climbs_monotonic (values : List Decimal) : Climbs (monotonic values) := by
  cases values with
  | nil => exact .nil
  | cons v rest => exact climbs_climb v rest

theorem climb_of_climbs {previous : Decimal} {values : List Decimal}
    (h : Climbs (previous :: values)) : climb previous values = values := by
  induction values generalizing previous with
  | nil => rfl
  | cons v rest ih =>
    rw [Climbs, List.isChain_cons_cons] at h
    have kept : ¬v.lt previous = true := by
      rw [lt_iff, not_lt]
      exact h.1
    rw [climb, if_neg kept, ih h.2]

/-- A column that climbs is left as it is written. -/
theorem monotonic_of_climbs {values : List Decimal} (h : Climbs values) :
    monotonic values = values := by
  cases values with
  | nil => rfl
  | cons v rest => rw [monotonic, climb_of_climbs h]

@[simp] theorem monotonic_monotonic (values : List Decimal) :
    monotonic (monotonic values) = monotonic values :=
  monotonic_of_climbs (climbs_monotonic values)

theorem climb_greatest {previous d : Decimal} {values : List Decimal} {k : Nat}
    (h : (previous :: climb previous values)[k]? = some d) :
    d ∈ (previous :: values).take (k + 1) ∧
      ∀ v ∈ (previous :: values).take (k + 1), v.value ≤ d.value := by
  induction values generalizing previous k with
  | nil =>
    cases k with
    | zero => simp_all
    | succ k => simp [climb] at h
  | cons v rest ih =>
    cases k with
    | zero => simp_all
    | succ k =>
      have raised := value_raised previous v
      -- the rest climbs from the raised value, which is the greatest so far
      obtain ⟨mem, bound⟩ := ih (by simpa [climb] using h)
      have top := bound _ List.mem_cons_self
      rw [raised, max_le_iff] at top
      constructor
      · rcases List.mem_cons.mp mem with rfl | inRest
        · split <;> simp
        · simp [inRest]
      · simp only [List.take_succ_cons, List.forall_mem_cons]
        exact ⟨top.1, top.2, fun w hw => bound w (List.mem_cons_of_mem _ hw)⟩

/-- At each place stands a value of the column up to there, and none of them is greater. -/
theorem monotonic_greatest {values : List Decimal} {k : Nat} {d : Decimal}
    (h : (monotonic values)[k]? = some d) :
    d ∈ values.take (k + 1) ∧ ∀ v ∈ values.take (k + 1), v.value ≤ d.value := by
  cases values with
  | nil => simp [monotonic] at h
  | cons v rest => exact climb_greatest h

theorem mem_of_mem_runningMaximum {v : ℚ} {values : List ℚ} (h : v ∈ runningMaximum values) :
    v ∈ values := by
  cases values with
  | nil => exact h
  | cons first rest =>
    rw [runningMaximum] at h
    induction rest generalizing first with
    | nil => simpa using h
    | cons next rest ih =>
      rw [List.scanl_cons, List.mem_cons] at h
      rcases h with rfl | h
      · exact List.mem_cons_self
      · have := ih _ h
        rcases List.mem_cons.mp this with rfl | inRest
        · rcases max_choice first next with e | e <;> simp [e]
        · simp [inRest]

end TrajectoryFormat.Record.Series

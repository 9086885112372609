import TrajectoryFormat.Proofs.Decimal.Exact
import TrajectoryFormat.Proofs.DeltaCoding

/-!
# Delta coding of decimals

The difference of two decimals may have more digits than a decimal holds, and is then rounded. A
column of decimals is coded exactly where every difference of neighbours is itself a decimal, and is
decoded to the same numbers where each value is recovered from its neighbour and their rounded
difference. Numbers that differ enough in size are not.
-/

namespace TrajectoryFormat.Delta

open Decimal Number

variable {previous current : Decimal} {values coded : List Decimal}

/-- The rounded difference of `b` from `a`, added to `a`, comes to the number of `b`. -/
def Recovers (a b : Decimal) : Prop :=
  ∃ d, b.sub? a = some d ∧ (d.add? a).map value = some b.value

theorem recovers_of_isDecimal {a b : Decimal} (exact : IsDecimal (b.value - a.value)) :
    Recovers a b := by
  obtain ⟨d, difference, number⟩ := Option.map_eq_some_iff.mp (isDecimal_iff_sub?.mp exact)
  refine ⟨d, difference, map_value_add?_of_value ?_⟩
  rw [number, sub_add_cancel]

/-- A value is decoded to its number where the sum so far has the number of the value before it. -/
theorem recovers_iff {v d : Decimal} (difference : v.sub? previous = some d)
    (same : current.value = previous.value) :
    Recovers previous v ↔ ∃ r, d.add? current = some r ∧ r.value = v.value := by
  have sum : (d.add? current).map value = (d.add? previous).map value :=
    map_value_add?_congr (by rw [same])
  rw [← Option.map_eq_some_iff, sum]
  constructor
  · rintro ⟨d', difference', number⟩
    rw [difference, Option.some.injEq] at difference'
    exact difference' ▸ number
  · intro number
    exact ⟨d, difference, number⟩

theorem checkedSums_recovers (coding : differences? sub? previous values = some coded)
    (same : current.value = previous.value) :
    (∃ decoded, checkedSums add? current coded = .ok decoded
      ∧ decoded.map value = values.map value) ↔
      (previous :: values).IsChain Recovers := by
  induction values generalizing previous current coded with
  | nil =>
    cases coding
    simp [checkedSums]
  | cons v rest ih =>
    obtain ⟨d, ds, difference, others, rfl⟩ := differences?_cons_eq_some.mp coding
    rw [List.isChain_cons_cons, recovers_iff difference same]
    simp only [checkedSums_cons_eq_ok]
    constructor
    · rintro ⟨_, ⟨r, rs, sum, sums, rfl⟩, numbers⟩
      rw [List.map_cons, List.map_cons, List.cons.injEq] at numbers
      exact ⟨⟨r, sum, numbers.1⟩, (ih others numbers.1).mp ⟨rs, sums, numbers.2⟩⟩
    · rintro ⟨⟨r, sum, number⟩, chain⟩
      obtain ⟨rs, sums, numbers⟩ := (ih others number).mpr chain
      refine ⟨r :: rs, ⟨r, rs, sum, sums, rfl⟩, ?_⟩
      rw [List.map_cons, List.map_cons, number, numbers]

/-- A coded column of decimals is decoded to its numbers just where each value is recovered from the
one before. -/
theorem checkedDecode_recovers (coding : encode? sub? values = some coded) :
    (∃ decoded, checkedDecode add? coded = .ok decoded ∧ decoded.map value = values.map value) ↔
      values.IsChain Recovers := by
  cases values with
  | nil =>
    cases coding
    simp [checkedDecode]
  | cons v rest =>
    obtain ⟨ds, others, rfl⟩ := encode?_cons_eq_some.mp coding
    rw [← checkedSums_recovers others rfl]
    simp only [checkedDecode, prepend_eq_ok]
    constructor
    · rintro ⟨_, ⟨vs, sums, rfl⟩, numbers⟩
      rw [List.map_cons, List.map_cons, List.cons.injEq] at numbers
      exact ⟨vs, sums, numbers.2⟩
    · rintro ⟨vs, sums, numbers⟩
      refine ⟨v :: vs, ⟨vs, sums, rfl⟩, ?_⟩
      rw [List.map_cons, List.map_cons, numbers]

/-- What is asked of two neighbours for their difference to be coded as it is. -/
theorem codedExactly_iff {a b : Decimal} (difference : ∃ d, b.sub? a = some d) :
    (∀ d, b.sub? a = some d → d.value = b.value - a.value) ↔ IsDecimal (b.value - a.value) := by
  rw [isDecimal_iff_sub?]
  obtain ⟨d, found⟩ := difference
  rw [found, Option.map_some, Option.some.injEq]
  simp only [Option.some.injEq, forall_eq']

/-- A column is coded exactly just where every difference of neighbours is the number of a
decimal. -/
theorem coded_exactly_iff (coding : encode? sub? values = some coded) :
    coded.map value = encode (· - ·) (values.map value) ↔
      values.IsChain fun a b => IsDecimal (b.value - a.value) := by
  have inRange := exists_encode?_iff.mp ⟨coded, coding⟩
  rw [map_encode?_iff coding, List.isChain_iff_getElem, List.isChain_iff_getElem]
  rw [List.isChain_iff_getElem] at inRange
  exact forall_congr' fun k => forall_congr' fun bound => codedExactly_iff (inRange k bound)

/-! ## Numbers of moderate size -/

/-- Written with that many places, the number has a coefficient below half of the limit. -/
def WithinHalf (places : Nat) (d : Decimal) : Prop :=
  d.scale ≤ places ∧ 2 * (d.coefficient.natAbs * tenTo (places - d.scale)) < coefficientLimit

instance (places : Nat) (d : Decimal) : Decidable (WithinHalf places d) :=
  inferInstanceAs (Decidable (_ ∧ _))

theorem isDecimal_sub_of_withinHalf {a b : Decimal} {places : Nat} (few : places ≤ 28)
    (ha : WithinHalf places a) (hb : WithinHalf places b) : IsDecimal (b.value - a.value) := by
  apply isDecimal_of_fits _ few
    (c := b.coefficient * tenTo (places - b.scale) - a.coefficient * tenTo (places - a.scale))
  · have apart := Int.natAbs_sub_le (b.coefficient * tenTo (places - b.scale))
      (a.coefficient * tenTo (places - a.scale))
    rw [Int.natAbs_mul, Int.natAbs_mul, Int.natAbs_natCast, Int.natAbs_natCast] at apart
    have sizeA := ha.2
    have sizeB := hb.2
    omega
  · rw [sub_mul, value_mul_tenTo hb.1, value_mul_tenTo ha.1]
    push_cast
    rfl

/-- Numbers of moderate size are always coded, exactly, and are decoded to the same numbers. -/
theorem exact_of_withinHalf {places : Nat} (few : places ≤ 28)
    (within : ∀ v ∈ values, WithinHalf places v) :
    values.IsChain (fun a b => IsDecimal (b.value - a.value))
      ∧ ∃ coded, encode? sub? values = some coded := by
  have exact : values.IsChain fun a b => IsDecimal (b.value - a.value) := by
    apply List.isChain_iff_getElem.mpr
    intro k bound
    exact isDecimal_sub_of_withinHalf few (within _ (List.getElem_mem _))
      (within _ (List.getElem_mem _))
  refine ⟨exact, exists_encode?_iff.mpr (exact.imp ?_)⟩
  intro a b difference
  obtain ⟨d, found, _⟩ := Option.map_eq_some_iff.mp (isDecimal_iff_sub?.mp difference)
  exact ⟨d, found⟩

/-! ## The column as a whole -/

/-- A column of decimals that is coded is decoded to the same numbers just where each value is
recovered from the one before it. The code is exact just where every difference of neighbours is the
number of a decimal, and then nothing is lost. So it is where the values are of moderate size at
common places. -/
theorem decimals_recovered (coding : encode? sub? values = some coded) :
    ((∃ decoded, checkedDecode add? coded = .ok decoded ∧ decoded.map value = values.map value) ↔
        values.IsChain Recovers)
      ∧ (coded.map value = encode (· - ·) (values.map value) ↔
        values.IsChain fun a b => IsDecimal (b.value - a.value))
      ∧ (coded.map value = encode (· - ·) (values.map value) → values.IsChain Recovers)
      ∧ (∀ places ≤ 28, (∀ v ∈ values, WithinHalf places v) →
        coded.map value = encode (· - ·) (values.map value)) := by
  refine ⟨checkedDecode_recovers coding, coded_exactly_iff coding, ?_, ?_⟩
  · intro exact
    exact ((coded_exactly_iff coding).mp exact).imp fun a b => recovers_of_isDecimal
  · intro places few within
    exact (coded_exactly_iff coding).mpr (exact_of_withinHalf few within).1

private def tide : List Decimal :=
  [⟨101, 1, by decide, by decide⟩, ⟨995, 2, by decide, by decide⟩, ⟨-2125, 3, by decide, by decide⟩]

private def tideCode : List Decimal :=
  [⟨101, 1, by decide, by decide⟩, ⟨-15, 2, by decide, by decide⟩,
    ⟨-12075, 3, by decide, by decide⟩]

theorem decimals_recovered_tide :
    encode? sub? tide = some tideCode ∧
      ∃ decoded, checkedDecode add? tideCode = .ok decoded
        ∧ decoded.map value = tide.map value := by
  have coding : encode? sub? tide = some tideCode := by decide +kernel
  obtain ⟨decoded, _, recovered, moderate⟩ := decimals_recovered coding
  exact ⟨coding, decoded.mpr (recovered (moderate 3 (by decide) (by decide +kernel)))⟩

/-- The second value is far smaller than the first, and the last is the largest decimal. -/
private def uneven : List Decimal :=
  [{ zero with coefficient := 30000000000000000000000000000, coefficient_lt := by decide },
    ⟨6, 1, by decide, by decide⟩, ⟨3, 1, by decide, by decide⟩,
    { zero with coefficient := 79228162514264337593543950335, coefficient_lt := by decide }]

private def unevenCode : List Decimal :=
  [{ zero with coefficient := 30000000000000000000000000000, coefficient_lt := by decide },
    { zero with coefficient := -29999999999999999999999999999, coefficient_lt := by decide },
    ⟨-3, 1, by decide, by decide⟩,
    { zero with coefficient := 79228162514264337593543950335, coefficient_lt := by decide }]

/-- The first difference loses its place, so that the last sum is out of range. -/
theorem uneven_lost :
    ¬ ∀ values coded : List Decimal, values ≠ [] → encode? sub? values = some coded →
      ∃ decoded, checkedDecode add? coded = .ok decoded ∧ decoded.map value = values.map value := by
  intro claim
  have coding : encode? sub? uneven = some unevenCode := by decide +kernel
  obtain ⟨decoded, decoding, _⟩ := claim uneven unevenCode (by decide) coding
  have overflow : (checkedDecode add? unevenCode).toOption = none := by decide +kernel
  rw [decoding] at overflow
  cases overflow

end TrajectoryFormat.Delta

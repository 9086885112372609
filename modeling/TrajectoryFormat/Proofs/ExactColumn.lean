import TrajectoryFormat.Proofs.Decimal.Value
import TrajectoryFormat.Proofs.WrittenColumn

/-!
# Columns computed without rounding

The sums, differences and products that a column of decimals is repaired and written with, in order.
An operation is exact where nothing is rounded; a column whose operations are all exact is decoded
and coded as rational numbers would be.
-/

namespace TrajectoryFormat

namespace Decimal

/-- An operation on two decimals. -/
inductive Operation where
  | sum (a b : Decimal)
  | difference (a b : Decimal)
  | product (a b : Decimal)

namespace Operation

def result? : Operation → Option Decimal
  | sum a b => a.add? b
  | difference a b => a.sub? b
  | product a b => a.mul? b

def exact : Operation → ℚ
  | sum a b => a.value + b.value
  | difference a b => a.value - b.value
  | product a b => a.value * b.value

/-- Where there is a result, nothing has been rounded. -/
def IsExact (o : Operation) : Prop := ∀ d, o.result? = some d → d.value = o.exact

instance (o : Operation) : Decidable o.IsExact :=
  match h : o.result? with
  | some d => decidable_of_iff (d.value = o.exact) (by simp [IsExact, h])
  | none => isTrue (by simp [IsExact, h])

end Operation

end Decimal

namespace Record.Series

open Decimal

/-- The sums that decode a column after `previous`, up to the first that leaves its range. -/
def decodingOperations (previous : Decimal) : List Decimal → List Operation
  | [] => []
  | d :: rest =>
    .sum d previous :: match d.add? previous with
      | some v => decodingOperations v rest
      | none => []

def codingOperations : List Decimal → List Operation
  | a :: b :: rest => .difference b a :: codingOperations (b :: rest)
  | _ => []

def repairOperations : Series → List Operation
  | numeric (v :: rest) true _ => decodingOperations v rest
  | _ => []

def writingOperations (scale : Decimal) : Series → List Operation
  | text _ => []
  | numeric values isDelta isDecimal =>
    (if isDelta then [] else codingOperations values)
      ++ if isDecimal then ((coded? isDelta values).getD []).map (.product · scale) else []

theorem exact_differences {values : List Decimal} (h : ∀ o ∈ codingOperations values, o.IsExact) :
    values.IsChain fun a b => ∀ d, b.sub? a = some d → d.value = b.value - a.value := by
  induction values with
  | nil => exact .nil
  | cons a rest ih =>
    cases rest with
    | nil => exact .singleton a
    | cons b rest =>
      simp only [codingOperations, List.forall_mem_cons] at h
      exact .cons_cons h.1 (ih h.2)

theorem exact_sums {previous : Decimal} {values out : List Decimal}
    (h : ∀ o ∈ decodingOperations previous values, o.IsExact)
    (decoding : Delta.checkedSums add? previous values = .ok out) :
    out.map value = Delta.sums (· + ·) previous.value (values.map value) := by
  induction values generalizing previous out with
  | nil => cases decoding; rfl
  | cons d rest ih =>
    obtain ⟨v, vs, hv, hvs, rfl⟩ := Delta.checkedSums_cons_eq_ok.mp decoding
    simp only [decodingOperations, hv, List.forall_mem_cons] at h
    have first : v.value = d.value + previous.value := h.1 v hv
    simp only [List.map_cons, Delta.sums, ← first, ih h.2 hvs]

/-- The numbers of a column, summed up where it is delta-coded. -/
def absolute (isDelta : Bool) (numbers : List ℚ) : List ℚ :=
  if isDelta then Delta.decode (· + ·) numbers else numbers

theorem exact_decoded {isDelta isDecimal : Bool} {values out : List Decimal}
    (h : ∀ o ∈ (numeric values isDelta isDecimal).repairOperations, o.IsExact)
    (decoding : decoded isDelta values = .ok out) :
    out.map value = absolute isDelta (values.map value) := by
  cases isDelta with
  | false => cases decoding; rfl
  | true =>
    cases values with
    | nil => cases decoding; rfl
    | cons v rest =>
      obtain ⟨vs, hvs, rfl⟩ := Delta.prepend_eq_ok.mp decoding
      simp only [absolute, if_true, List.map_cons, Delta.decode, exact_sums h hvs]

/-- The running sums of an exactly coded column are its absolute numbers. -/
theorem exact_coded {isDelta isDecimal : Bool} {scale : Decimal} {values coded : List Decimal}
    (h : ∀ o ∈ (numeric values isDelta isDecimal).writingOperations scale, o.IsExact)
    (coding : coded? isDelta values = some coded) :
    Delta.decode (· + ·) (coded.map value) = absolute isDelta (values.map value) := by
  cases isDelta with
  | true => cases coding; rfl
  | false =>
    simp only [writingOperations, Bool.false_eq_true, if_false, List.forall_mem_append] at h
    rw [Delta.map_encode? coding (exact_differences h.1), Delta.decode_encode]
    rfl

def factor (isDecimal : Bool) (scale : Decimal) : ℚ := if isDecimal then scale.value else 1

theorem exact_scaled {isDelta isDecimal : Bool} {scale : Decimal} {values coded : List Decimal}
    (h : ∀ o ∈ (numeric values isDelta isDecimal).writingOperations scale, o.IsExact)
    (coding : coded? isDelta values = some coded) :
    ∀ v ∈ coded, ∀ s, scaled? (scaleFor isDecimal scale) v = some s →
      s.value = v.value * factor isDecimal scale := by
  intro v hv s hs
  cases isDecimal with
  | false =>
    cases hs
    exact (mul_one v.value).symm
  | true =>
    refine h (.product v scale) ?_ s hs
    simp only [writingOperations, coding, Option.getD_some, if_true, List.mem_append]
    exact .inr (List.mem_map_of_mem hv)

end Record.Series

end TrajectoryFormat

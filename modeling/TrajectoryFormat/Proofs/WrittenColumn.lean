import TrajectoryFormat.Proofs.Checked
import TrajectoryFormat.Proofs.DeltaCoding
import TrajectoryFormat.Proofs.RunningMaximum

/-!
# Written columns

What a column of numbers is read from and written as: the items that spell its numbers, the
differences that it is coded into, and the 64-bit whole numbers that are cut from them. A column
that climbs is written with no difference below zero after its first value.
-/

namespace TrajectoryFormat.Record.Series

open Checked Number

theorem ofItems_eq_ok {declaredType : Text} (isNumber : DeclaredType.isNumber declaredType = true)
    {items : List Text} {s : Series} :
    ofItems declaredType items = .ok s ↔
      ∃ parsed, items.mapM number = .ok parsed ∧ numeric parsed
        (DeclaredType.isDelta declaredType) (DeclaredType.isDecimal declaredType) = s := by
  rw [ofItems, if_pos isNumber]
  simp only [bind_eq_ok, pure_eq_ok]

theorem ofDates_eq_ok {pattern : DatePattern} {items : List Text} {s : Series} :
    ofDates pattern items = .ok s ↔
      ∃ instants, items.mapM (instant pattern) = .ok instants
        ∧ numeric instants false false = s := by
  rw [ofDates]
  simp only [bind_eq_ok, pure_eq_ok]

/-- The absolute numbers of a column: its running sums where it is delta-coded. -/
def decoded (isDelta : Bool) (values : List Decimal) : Except (List Decimal) (List Decimal) :=
  if isDelta then Delta.checkedDecode Decimal.add? values else .ok values

theorem repaired_numeric_eq_ok {values : List Decimal} {isDelta isDecimal : Bool} {s : Series} :
    (numeric values isDelta isDecimal).repaired = .ok s ↔
      ∃ absolute, decoded isDelta values = .ok absolute
        ∧ numeric (monotonic absolute) false isDecimal = s := by
  cases isDelta with
  | false => simp [repaired, decoded]
  | true => simp only [repaired, decoded, bind_eq_ok, pure_eq_ok, mapError_eq_ok, if_true]

def length : Series → Nat
  | numeric values _ _ => values.length
  | text values => values.length

theorem length_ofItems {declaredType : Text} {items : List Text} {s : Series}
    (h : ofItems declaredType items = .ok s) : s.length = items.length := by
  by_cases isNumber : DeclaredType.isNumber declaredType = true
  · obtain ⟨parsed, reading, rfl⟩ := (ofItems_eq_ok isNumber).mp h
    exact (mapM_eq_ok.mp reading).length_eq.symm
  · rw [ofItems, if_neg isNumber] at h
    cases h
    rfl

theorem length_ofDates {pattern : DatePattern} {items : List Text} {s : Series}
    (h : ofDates pattern items = .ok s) : s.length = items.length := by
  obtain ⟨instants, reading, rfl⟩ := ofDates_eq_ok.mp h
  exact (mapM_eq_ok.mp reading).length_eq.symm

@[simp] theorem length_values_column (s : Series) : s.column.values.length = s.length := by
  cases s <;> exact List.length_map _

/-- The differences that a column is written from: its values where it is delta-coded already. -/
def coded? (isDelta : Bool) (values : List Decimal) : Option (List Decimal) :=
  if isDelta then some values else Delta.encode? Decimal.sub? values

def scaled? (scale? : Option Decimal) (v : Decimal) : Option Decimal :=
  match scale? with
  | none => some v
  | some scale => v.mul? scale

def scaleFor (isDecimal : Bool) (scale : Decimal) : Option Decimal :=
  if isDecimal then some scale else none

theorem whole_eq_ok {scale? : Option Decimal} {v : Decimal} {n : Int} :
    whole scale? v = .ok n ↔ ∃ s, scaled? scale? v = some s ∧ FitsInt64 s.toInt ∧ s.toInt = n := by
  have cut (s : Decimal) : (if FitsInt64 s.toInt then pure s.toInt else throw (.overflow v.render) :
      Except RecordError Int) = .ok n ↔ FitsInt64 s.toInt ∧ s.toInt = n := by
    split
    · next fits => simp [pure_eq_ok, fits]
    · next fits => simp [throw_ne_ok, fits]
  cases scale? with
  | none => simp [whole, scaled?, cut]
  | some scale =>
    cases product : v.mul? scale with
    | none => simp [whole, scaled?, product, throw_ne_ok, bind_eq_ok]
    | some s => simp [whole, scaled?, product, cut]

/-- The whole numbers that a numeric column is written as. -/
theorem compressed_numeric_eq_ok {scale : Decimal} {values : List Decimal}
    {isDelta isDecimal : Bool} {texts : List Text} :
    (numeric values isDelta isDecimal).compressed scale = .ok texts ↔
      ∃ coded, coded? isDelta values = some coded ∧
        ∃ written,
          List.Forall₂ (fun v n => whole (scaleFor isDecimal scale) v = .ok n) coded written
          ∧ written.map Number.ofInt = texts := by
  cases isDelta with
  | true =>
    simp only [compressed, coded?, scaleFor, if_true, bind_eq_ok, pure_eq_ok, mapM_eq_ok,
      exists_eq_left', Option.some.injEq]
  | false =>
    cases h : Delta.encode? Decimal.sub? values with
    | none => simp [compressed, coded?, h, throw_ne_ok, bind_eq_ok]
    | some coded =>
      simp only [compressed, coded?, h, scaleFor, Bool.false_eq_true, if_false,
        bind_eq_ok, pure_eq_ok, mapM_eq_ok, exists_eq_left', Option.some.injEq]

theorem length_decoded {isDelta : Bool} {values absolute : List Decimal}
    (h : decoded isDelta values = .ok absolute) : absolute.length = values.length := by
  cases isDelta with
  | true => exact Delta.length_checkedDecode h
  | false => cases h; rfl

theorem length_repaired {s repairedSeries : Series} (h : s.repaired = .ok repairedSeries) :
    repairedSeries.length = s.length := by
  cases s with
  | numeric values isDelta isDecimal =>
    obtain ⟨absolute, decoding, rfl⟩ := repaired_numeric_eq_ok.mp h
    rw [length, length_monotonic, length_decoded decoding, length]
  | text values =>
    cases h
    rfl

theorem length_coded? {isDelta : Bool} {values coded : List Decimal}
    (h : coded? isDelta values = some coded) : coded.length = values.length := by
  cases isDelta with
  | true => cases h; rfl
  | false => exact Delta.length_encode? h

/-- Every number that is written fits a signed word of 64 bits. -/
theorem fitsInt64_of_whole {scale? : Option Decimal} {coded : List Decimal} {written : List Int}
    (h : List.Forall₂ (fun v n => whole scale? v = .ok n) coded written) :
    ∀ n ∈ written, FitsInt64 n := by
  induction h with
  | nil => simp
  | cons hv _ ih =>
    obtain ⟨s, _, fits, rfl⟩ := whole_eq_ok.mp hv
    exact List.forall_mem_cons.mpr ⟨fits, ih⟩

theorem scaled?_nonneg {scale? : Option Decimal} (hs : ∀ scale ∈ scale?, 0 ≤ scale.value)
    {v s : Decimal} (hv : 0 ≤ v.value) (h : scaled? scale? v = some s) : 0 ≤ s.value := by
  cases scale? with
  | none => cases h; exact hv
  | some scale => exact Decimal.mul?_nonneg hv (hs scale rfl) h

theorem whole_nonneg {scale? : Option Decimal} (hs : ∀ scale ∈ scale?, 0 ≤ scale.value)
    {v : Decimal} {n : Int} (hv : 0 ≤ v.value) (h : whole scale? v = .ok n) : 0 ≤ n := by
  obtain ⟨s, scaled, _, rfl⟩ := whole_eq_ok.mp h
  exact Decimal.toInt_nonneg (scaled?_nonneg hs hv scaled)

def TailNonneg (written : List Int) : Prop := ∀ n ∈ written.tail, 0 ≤ n

/-- A column that climbs is written without a step back. -/
theorem tailNonneg_of_climbs {scale? : Option Decimal} (hs : ∀ scale ∈ scale?, 0 ≤ scale.value)
    {values coded : List Decimal} {written : List Int} (climbing : Climbs values)
    (hc : coded? false values = some coded)
    (hw : List.Forall₂ (fun v n => whole scale? v = .ok n) coded written) : TailNonneg written := by
  cases values with
  | nil =>
    cases hc
    cases hw
    simp [TailNonneg]
  | cons v rest =>
    obtain ⟨ds, hds, rfl⟩ := Delta.encode?_cons_eq_some.mp hc
    cases hw with
    | cons _ hw =>
      have steps : ∀ d ∈ ds, 0 ≤ d.value :=
        Delta.forall_mem_differences? hds (climbing.imp fun a b h d hd => Decimal.sub?_nonneg h hd)
      clear hds hc
      rw [TailNonneg, List.tail_cons]
      induction hw with
      | nil => simp
      | cons hn _ ih =>
        rw [List.forall_mem_cons] at steps ⊢
        exact ⟨whole_nonneg hs steps.1 hn, ih steps.2⟩

end TrajectoryFormat.Record.Series

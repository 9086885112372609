import Mathlib.Tactic.NormNum
import TrajectoryFormat.Proofs.Numerals
import TrajectoryFormat.Proofs.WrittenColumn

/-!
# Columns of whole numbers

A column of 64-bit whole numbers is read back from its numerals, its running sums are exact while 96
bits can hold them, and coding the sums gives the column again. Fewer than 2 to the 32 numbers of 64
bits never leave the 96 bits, and where no number after the first is below zero the sums climb, so
repairing them changes nothing.
-/

namespace TrajectoryFormat.Record.Series

open Checked Number

/-- Decimals that are written as these whole numbers. -/
def Spell (values : List Decimal) (numbers : List Int) : Prop :=
  List.Forall₂ Decimal.IsWhole values numbers

theorem natAbs_of_fitsInt64 {n : Int} (h : FitsInt64 n) : n.natAbs ≤ twoTo 63 := by
  obtain ⟨low, high⟩ := h
  have : twoTo 63 = 9223372036854775808 := by decide
  omega

theorem fits_of_fitsInt64 {n : Int} (h : FitsInt64 n) : n.natAbs < coefficientLimit :=
  lt_of_le_of_lt (natAbs_of_fitsInt64 h) (by decide)

theorem mapM_number_ofInt {numbers : List Int} (fits : ∀ n ∈ numbers, FitsInt64 n) :
    ∃ values, (numbers.map ofInt).mapM number = .ok values ∧ Spell values numbers := by
  induction numbers with
  | nil => exact ⟨[], rfl, .nil⟩
  | cons n rest ih =>
    rw [List.forall_mem_cons] at fits
    obtain ⟨d, reading, spelled⟩ := Decimal.readNumber?_ofInt (fits_of_fitsInt64 fits.1)
    obtain ⟨values, readings, spelling⟩ := ih fits.2
    have read : number (ofInt n) = .ok d := by rw [number, reading]
    exact ⟨d :: values, mapM_eq_ok.mpr (.cons read (mapM_eq_ok.mp readings)),
      .cons spelled spelling⟩

theorem whole_of_spell {values : List Decimal} {numbers : List Int} (h : Spell values numbers)
    (fits : ∀ n ∈ numbers, FitsInt64 n) :
    List.Forall₂ (fun v n => whole none v = .ok n) values numbers := by
  induction h with
  | nil => exact .nil
  | cons spelled _ ih =>
    rw [List.forall_mem_cons] at fits
    refine .cons (whole_eq_ok.mpr ⟨_, rfl, ?_, spelled.toInt_eq⟩) (ih fits.2)
    rw [spelled.toInt_eq]
    exact fits.1

/-! ## Running sums -/

theorem spell_checkedSums {previous : Decimal} {start : Int} (first : previous.IsWhole start)
    {values : List Decimal} {numbers : List Int} (h : Spell values numbers)
    (fits : ∀ s ∈ Delta.sums (· + ·) start numbers, s.natAbs < coefficientLimit) :
    ∃ sums, Delta.checkedSums Decimal.add? previous values = .ok sums
      ∧ Spell sums (Delta.sums (· + ·) start numbers) := by
  induction h generalizing previous start with
  | nil => exact ⟨[], rfl, .nil⟩
  | @cons d n _ _ spelled _ ih =>
    simp only [Delta.sums, List.forall_mem_cons] at fits
    obtain ⟨v, added, exact⟩ := spelled.add? first fits.1
    obtain ⟨sums, rest, spelling⟩ := ih exact fits.2
    exact ⟨v :: sums, Delta.checkedSums_cons_eq_ok.mpr ⟨v, sums, added, rest, rfl⟩,
      .cons exact spelling⟩

/-- Running sums that 96 bits can hold are exact. -/
theorem spell_checkedDecode {values : List Decimal} {numbers : List Int} (h : Spell values numbers)
    (fits : ∀ s ∈ Delta.decode (· + ·) numbers, s.natAbs < coefficientLimit) :
    ∃ absolute, Delta.checkedDecode Decimal.add? values = .ok absolute
      ∧ Spell absolute (Delta.decode (· + ·) numbers) := by
  cases h with
  | nil => exact ⟨[], rfl, .nil⟩
  | cons spelled rest =>
    simp only [Delta.decode, List.forall_mem_cons] at fits
    obtain ⟨sums, summed, spelling⟩ := spell_checkedSums spelled rest fits.2
    exact ⟨_ :: sums, Delta.prepend_eq_ok.mpr ⟨sums, summed, rfl⟩, .cons spelled spelling⟩

theorem spell_differences? {previous : Decimal} {start : Int} (first : previous.IsWhole start)
    {values : List Decimal} {numbers : List Int} (h : Spell values numbers)
    (fits : ∀ d ∈ Delta.differences (· - ·) start numbers, d.natAbs < coefficientLimit) :
    ∃ coded, Delta.differences? Decimal.sub? previous values = some coded
      ∧ Spell coded (Delta.differences (· - ·) start numbers) := by
  induction h generalizing previous start with
  | nil => exact ⟨[], rfl, .nil⟩
  | cons spelled _ ih =>
    simp only [Delta.differences, List.forall_mem_cons] at fits
    obtain ⟨d, taken, exact⟩ := spelled.sub? first fits.1
    obtain ⟨coded, rest, spelling⟩ := ih spelled fits.2
    exact ⟨d :: coded, Delta.differences?_cons_eq_some.mpr ⟨d, coded, taken, rest, rfl⟩,
      .cons exact spelling⟩

theorem spell_encode? {values : List Decimal} {numbers : List Int} (h : Spell values numbers)
    (fits : ∀ d ∈ Delta.encode (· - ·) numbers, d.natAbs < coefficientLimit) :
    ∃ coded, Delta.encode? Decimal.sub? values = some coded
      ∧ Spell coded (Delta.encode (· - ·) numbers) := by
  cases h with
  | nil => exact ⟨[], rfl, .nil⟩
  | cons spelled rest =>
    simp only [Delta.encode, List.forall_mem_cons] at fits
    obtain ⟨ds, taken, spelling⟩ := spell_differences? spelled rest fits.2
    exact ⟨_ :: ds, Delta.encode?_cons_eq_some.mpr ⟨ds, taken, rfl⟩, .cons spelled spelling⟩

theorem natAbs_sums_le {bound : Nat} {start : Int} {numbers : List Int}
    (h : ∀ n ∈ numbers, n.natAbs ≤ bound) :
    ∀ s ∈ Delta.sums (· + ·) start numbers, s.natAbs ≤ start.natAbs + numbers.length * bound := by
  induction numbers generalizing start with
  | nil => simp [Delta.sums]
  | cons n rest ih =>
    rw [List.forall_mem_cons] at h
    have grown : (rest.length + 1) * bound = rest.length * bound + bound := Nat.succ_mul _ _
    have added : (n + start).natAbs ≤ start.natAbs + bound := by omega
    simp only [Delta.sums, List.forall_mem_cons, List.length_cons]
    constructor
    · omega
    · intro s hs
      have := ih h.2 s hs
      omega

/-- The running sums of `n` numbers are at most `n` times as large as the largest of them. -/
theorem natAbs_decode_le {bound : Nat} {numbers : List Int} (h : ∀ n ∈ numbers, n.natAbs ≤ bound) :
    ∀ s ∈ Delta.decode (· + ·) numbers, s.natAbs ≤ numbers.length * bound := by
  cases numbers with
  | nil => simp [Delta.decode]
  | cons n rest =>
    rw [List.forall_mem_cons] at h
    have grown : (rest.length + 1) * bound = rest.length * bound + bound := Nat.succ_mul _ _
    simp only [Delta.decode, List.forall_mem_cons, List.length_cons]
    constructor
    · omega
    · intro s hs
      have := natAbs_sums_le h.2 s hs
      omega

/-- Fewer than 2 to the 32 numbers of 64 bits keep their running sums within 96 bits. -/
theorem fits_decode {numbers : List Int} (fits : ∀ n ∈ numbers, FitsInt64 n)
    (short : numbers.length < 2 ^ 32) :
    ∀ s ∈ Delta.decode (· + ·) numbers, s.natAbs < coefficientLimit := by
  intro s hs
  have bounded := natAbs_decode_le (fun n hn => natAbs_of_fitsInt64 (fits n hn)) s hs
  calc s.natAbs ≤ numbers.length * twoTo 63 := bounded
    _ < 2 ^ 32 * twoTo 63 := Nat.mul_lt_mul_of_pos_right short (twoTo_pos 63)
    _ ≤ coefficientLimit := by decide

/-! ## Climbing sums -/

theorem isChain_sums {start : Int} {numbers : List Int} (h : ∀ n ∈ numbers, 0 ≤ n) :
    (start :: Delta.sums (· + ·) start numbers).IsChain (· ≤ ·) := by
  induction numbers generalizing start with
  | nil => exact .singleton _
  | cons n rest ih =>
    rw [List.forall_mem_cons] at h
    have step : start ≤ n + start := by omega
    exact .cons_cons step (ih h.2)

theorem climbs_of_spell {values : List Decimal} {numbers : List Int} (h : Spell values numbers)
    (climbing : numbers.IsChain (· ≤ ·)) : Climbs values := by
  induction h with
  | nil => exact .nil
  | cons first rest ih =>
    cases rest with
    | nil => exact .singleton _
    | cons second rest =>
      rw [List.isChain_cons_cons] at climbing
      refine .cons_cons ?_ (ih climbing.2)
      rw [first.value_eq, second.value_eq]
      exact_mod_cast climbing.1

theorem climbs_decode {values : List Decimal} {numbers : List Int} (steps : TailNonneg numbers)
    (h : Spell values (Delta.decode (· + ·) numbers)) : Climbs values := by
  cases numbers with
  | nil => exact climbs_of_spell h .nil
  | cons n rest => exact climbs_of_spell h (isChain_sums steps)

/-! ## Whole columns that are delta-coded -/

theorem compressed_of_spell (scale : Decimal) {values : List Decimal} {numbers : List Int}
    (h : Spell values numbers) (fits : ∀ n ∈ numbers, FitsInt64 n) :
    (numeric values true false).compressed scale = .ok (numbers.map ofInt) :=
  compressed_numeric_eq_ok.mpr ⟨values, rfl, numbers, whole_of_spell h fits, rfl⟩

/-- Times of a delta type that do not go back are written as they are: their sums need no repair,
and coding the sums gives the times again. -/
theorem repaired_of_spell (scale : Decimal) {values : List Decimal} {numbers : List Int}
    (h : Spell values numbers) (fits : ∀ n ∈ numbers, FitsInt64 n) (short : numbers.length < 2 ^ 32)
    (steps : TailNonneg numbers) :
    ∃ times, (numeric values true false).repaired = .ok (numeric times false false)
      ∧ times.length = numbers.length
      ∧ (numeric times false false).compressed scale = .ok (numbers.map ofInt) := by
  obtain ⟨times, decoding, spelling⟩ := spell_checkedDecode h (fits_decode fits short)
  have back : Delta.encode (· - ·) (Delta.decode (· + ·) numbers) = numbers :=
    Delta.encode_decode numbers
  obtain ⟨coded, coding, spelled⟩ := spell_encode? spelling (by
    rw [back]
    exact fun n hn => fits_of_fitsInt64 (fits n hn))
  rw [back] at spelled
  refine ⟨times, repaired_numeric_eq_ok.mpr ⟨times, decoding, ?_⟩, ?_, ?_⟩
  · rw [monotonic_of_climbs (climbs_decode steps spelling)]
  · rw [spelling.length_eq, Delta.length_decode]
  · exact compressed_numeric_eq_ok.mpr ⟨coded, coding, numbers, whole_of_spell spelled fits, rfl⟩

end TrajectoryFormat.Record.Series

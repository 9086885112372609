import Mathlib.Data.List.Forall2
import TrajectoryFormat.Decimal.Notation
import TrajectoryFormat.Proofs.Decimal.Value

/-!
# Whole numbers written and read

The digits of a whole number, with a hyphen before those of a negative one, hold no blank and no
separator, and they are read back as the whole decimal that they spell.
-/

namespace TrajectoryFormat

namespace Text

theorem trim_of_no_blank {s : Text} (h : ∀ c ∈ s, isBlank c = false) : trim s = s :=
  trim_eq_self (fun c first => h c (List.mem_of_head? first)) fun c last =>
    h c (List.mem_of_getLast? last)

theorem toNat_of_isDigit {c : Char} (h : c.isDigit = true) : 48 ≤ c.toNat ∧ c.toNat ≤ 57 := by
  simp only [Char.isDigit, Bool.and_eq_true, decide_eq_true_eq] at h
  exact ⟨UInt32.le_iff_toNat_le.mp h.1, UInt32.le_iff_toNat_le.mp h.2⟩

theorem isBlank_of_isDigit {c : Char} (h : c.isDigit = true) : isBlank c = false := by
  have bounds := toNat_of_isDigit h
  exact isBlank_of_graphic (by omega) (by omega)

end Text

namespace Number

theorem isDigit_of_isDigits {digits : Text} (h : isDigits digits = true) :
    ∀ c ∈ digits, c.isDigit = true := by
  rw [isDigits, Bool.and_eq_true, List.all_eq_true] at h
  exact h.2

theorem ne_nil_of_isDigits {digits : Text} (h : isDigits digits = true) : digits ≠ [] := by
  rintro rfl
  cases h

theorem notMem_digits {c : Char} {digits : Text} (spelled : isDigits digits = true)
    (digit : c.isDigit = false) : c ∉ digits := by
  intro mem
  rw [isDigit_of_isDigits spelled c mem] at digit
  cases digit

theorem isDigit_of_mem_ofNat {n : Nat} {c : Char} (h : c ∈ ofNat n) : c.isDigit = true :=
  Nat.isDigit_of_mem_toDigits (by decide) (by decide) h

@[simp] theorem ofNat_ne_nil (n : Nat) : ofNat n ≠ [] := Nat.toDigits_ne_nil

theorem mem_ofInt {n : Int} {c : Char} (h : c ∈ ofInt n) : c.isDigit = true ∨ c = '-' := by
  unfold ofInt at h
  split at h
  · rcases List.mem_cons.mp h with rfl | h
    · exact .inr rfl
    · exact .inl (isDigit_of_mem_ofNat h)
  · exact .inl (isDigit_of_mem_ofNat h)

@[simp] theorem ofInt_ne_nil (n : Int) : ofInt n ≠ [] := by
  unfold ofInt
  split
  · exact List.cons_ne_nil _ _
  · exact ofNat_ne_nil _

theorem notMem_ofInt {n : Int} {c : Char} (digit : c.isDigit = false) (hyphen : c ≠ '-') :
    c ∉ ofInt n := by
  intro h
  rcases mem_ofInt h with d | rfl
  · simp [digit] at d
  · exact hyphen rfl

end Number

namespace Decimal

/-- A decimal that is written as a whole number. -/
def IsWhole (d : Decimal) (n : Int) : Prop := d.coefficient = n ∧ d.scale = 0

namespace IsWhole

variable {a b : Decimal} {m n : Int}

theorem value_eq (h : a.IsWhole m) : a.value = m := by
  rw [value_of_scale_zero h.2, h.1]

theorem toInt_eq (h : a.IsWhole m) : a.toInt = m := toInt_of_value h.value_eq

/-- Whole decimals are added without rounding where 96 bits can hold the sum. -/
theorem add? (ha : a.IsWhole m) (hb : b.IsWhole n) (fits : (m + n).natAbs < coefficientLimit) :
    ∃ c, a.add? b = some c ∧ c.IsWhole (m + n) := by
  obtain ⟨rfl, sa⟩ := ha
  obtain ⟨rfl, sb⟩ := hb
  unfold Decimal.add?
  by_cases za : a.coefficient = 0
  · exact ⟨b, by rw [if_pos za], by rw [za, Int.zero_add], sb⟩
  · by_cases zb : b.coefficient = 0
    · exact ⟨a, by rw [if_neg za, if_pos zb], by rw [zb, Int.add_zero], sa⟩
    · have found := fit?_of_fits fits (s := 0) (by decide)
      exact ⟨_, by simpa [za, zb, sa, sb, Number.tenTo_zero] using found, rfl, rfl⟩

theorem sub? (ha : a.IsWhole m) (hb : b.IsWhole n) (fits : (m - n).natAbs < coefficientLimit) :
    ∃ c, a.sub? b = some c ∧ c.IsWhole (m - n) := by
  have negated : b.neg.IsWhole (-n) := ⟨congrArg Neg.neg hb.1, hb.2⟩
  exact ha.add? negated fits

end IsWhole

theorem le_ofDigitChars (digits : Text) (n : Nat) : n ≤ Nat.ofDigitChars 10 digits n := by
  induction digits generalizing n with
  | nil => rw [Nat.ofDigitChars_nil]
  | cons c rest ih =>
    rw [Nat.ofDigitChars_cons]
    exact le_trans (by omega) (ih _)

theorem run_digits {digits : Text} (h : ∀ c ∈ digits, c.isDigit = true) {r : Reading}
    (whole : r.afterPoint = false) (scale : r.scale = 0) (seen : digits ≠ [] ∨ r.anyDigit = true)
    (fits : Nat.ofDigitChars 10 digits r.coefficient < coefficientLimit) :
    r.run digits = some (Nat.ofDigitChars 10 digits r.coefficient, 0) := by
  induction digits generalizing r with
  | nil =>
    have any : r.anyDigit = true := seen.resolve_left (by simp)
    rw [Reading.run, if_pos any, scale, Nat.ofDigitChars_nil]
  | cons c rest ih =>
    rw [List.forall_mem_cons] at h
    rw [Nat.ofDigitChars_cons, Nat.mul_comm] at fits ⊢
    have step : ¬coefficientLimit ≤ r.coefficient * 10 + (c.toNat - '0'.toNat) :=
      not_le.mpr (lt_of_le_of_lt (le_ofDigitChars rest _) fits)
    rw [Reading.run, if_pos h.1]
    simp only [whole, Bool.false_and, Bool.false_eq_true, if_false, step]
    exact ih h.2 rfl rfl (.inr rfl) fits

theorem run_ofNat {n : Nat} (fits : n < coefficientLimit) :
    ({} : Reading).run (Number.ofNat n) = some (n, 0) := by
  have spelled : Nat.ofDigitChars 10 (Number.ofNat n) 0 = n := Number.value_ofNat n
  have read := run_digits (r := {}) (fun _ => Number.isDigit_of_mem_ofNat) rfl rfl
    (.inl (Number.ofNat_ne_nil n)) (by rwa [spelled])
  rwa [spelled] at read

@[simp] theorem signed_ofNat (n : Nat) : signed (Number.ofNat n) = (false, Number.ofNat n) := by
  have noSign : ∀ c ∈ Number.ofNat n, c ≠ '-' ∧ c ≠ '+' := by
    intro c hc
    have digit := Number.isDigit_of_mem_ofNat hc
    constructor <;> rintro rfl <;> exact absurd digit (by decide)
  unfold signed
  split
  · next digits =>
    rw [digits] at noSign
    exact absurd rfl (noSign _ List.mem_cons_self).1
  · next digits =>
    rw [digits] at noSign
    exact absurd rfl (noSign _ List.mem_cons_self).2
  · rfl

theorem read?_ofInt {n : Int} (fits : n.natAbs < coefficientLimit) :
    ∃ d, read? (Number.ofInt n) = some d ∧ d.IsWhole n := by
  have made : make? n 0 = some ⟨n, 0, fits, by decide⟩ := make?_of_fits fits (by decide)
  refine ⟨⟨n, 0, fits, by decide⟩, ?_, rfl, rfl⟩
  rw [← made, Number.ofInt]
  by_cases negative : n < 0
  · have sign : -|n| = n := by rw [abs_of_neg negative, neg_neg]
    simp [read?, negative, signed, run_ofNat fits, sign]
  · have sign : |n| = n := abs_of_nonneg (not_lt.mp negative)
    simp [read?, negative, signed_ofNat, run_ofNat fits, sign]

theorem readNumber?_ofInt {n : Int} (fits : n.natAbs < coefficientLimit) :
    ∃ d, readNumber? (Number.ofInt n) = some d ∧ d.IsWhole n := by
  obtain ⟨d, read, whole⟩ := read?_ofInt fits
  have noBlank : ∀ c ∈ Number.ofInt n, Text.isBlank c = false := by
    intro c hc
    rcases Number.mem_ofInt hc with digit | rfl
    · exact Text.isBlank_of_isDigit digit
    · simp [Text.isBlank]
  refine ⟨d, ?_, whole⟩
  rw [readNumber?, Text.trim_of_no_blank noBlank, read]
  rfl

end Decimal

end TrajectoryFormat

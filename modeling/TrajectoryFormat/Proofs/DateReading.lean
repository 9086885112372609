import TrajectoryFormat.Date.Reader
import TrajectoryFormat.Decimal.Notation
import TrajectoryFormat.Proofs.Numerals

/-!
# Parts of date values read

A number written with as many digits as a field takes is read as that number, and what follows it is
left. A literal character of the pattern takes in that character of the value, however the literals
of the pattern make steps.
-/

namespace TrajectoryFormat

open Text Number

/-! ## Padded digits -/

namespace Decimal

theorem length_paddedDigits {width n : Nat} (positive : 0 < width) (fits : n < 10 ^ width) :
    (paddedDigits width n).length = width := by
  have short : (ofNat n).length ≤ width :=
    (Nat.length_toDigits_le_iff (by decide) positive).mpr fits
  rw [paddedDigits, List.length_append, List.length_replicate]
  omega

theorem isDigit_of_mem_paddedDigits (width n : Nat) :
    ∀ c ∈ paddedDigits width n, c.isDigit = true := by
  intro c mem
  rcases List.mem_append.mp mem with zero | digit
  · rw [List.eq_of_mem_replicate zero]
    rfl
  · exact isDigit_of_mem_ofNat digit

@[simp] theorem ofDigitChars_paddedDigits (width n : Nat) :
    Nat.ofDigitChars 10 (paddedDigits width n) 0 = n := by
  unfold paddedDigits
  rw [Nat.ofDigitChars_append, Nat.ofDigitChars_replicate_zero, Nat.mul_zero]
  exact value_ofNat n

end Decimal

namespace DateReader

variable {digits s : Text} {c : Char} {n width : Nat}

/-! ## Numbers -/

/-- As many digits as the width are read, and no more. -/
theorem moreDigits_append (numeric : ∀ c ∈ digits, c.isDigit = true)
    (small : Nat.ofDigitChars 10 digits n < twoTo 63) (s : Text) :
    moreDigits n digits.length (digits ++ s) = .ok (Nat.ofDigitChars 10 digits n, s) := by
  induction digits generalizing n with
  | nil => rw [Nat.ofDigitChars_nil, List.nil_append, List.length_nil, moreDigits]
  | cons c rest ih =>
    rw [List.forall_mem_cons] at numeric
    rw [Nat.ofDigitChars_cons, Nat.mul_comm] at small ⊢
    have next : n * 10 + digitValue c < twoTo 63 :=
      Nat.lt_of_le_of_lt (Decimal.le_ofDigitChars rest _) small
    rw [List.cons_append, List.length_cons, moreDigits, if_pos numeric.1, if_pos next]
    exact ih numeric.2 small

theorem number_append (numeric : ∀ c ∈ digits, c.isDigit = true) (nonempty : digits ≠ [])
    (small : Nat.ofDigitChars 10 digits 0 < twoTo 63) (s : Text) :
    number digits.length (digits ++ s) = .ok (Nat.ofDigitChars 10 digits 0, s) := by
  obtain ⟨c, rest, rfl⟩ := List.exists_cons_of_ne_nil nonempty
  rw [List.cons_append, number, if_pos (numeric c List.mem_cons_self)]
  exact moreDigits_append numeric small s

theorem length_le_byteLength (s : Text) : s.length ≤ byteLength s := by
  induction s with
  | nil => exact Nat.le_refl 0
  | cons c s ih =>
    have some := c.utf8Size_pos
    rw [List.length_cons, byteLength]
    omega

theorem exactDigits_append (numeric : ∀ c ∈ digits, c.isDigit = true) (s : Text) :
    exactDigits digits.length (digits ++ s) = .ok (Nat.ofDigitChars 10 digits 0, s) := by
  have long : digits.length ≤ byteLength (digits ++ s) := by
    have bytes := length_le_byteLength (digits ++ s)
    rw [List.length_append] at bytes
    omega
  rw [exactDigits, if_neg (Nat.not_lt.mpr long), List.take_left', List.drop_left', if_pos]
  · exact ⟨rfl, List.all_eq_true.mpr numeric⟩
  · rfl
  · rfl

theorem trimStart_digits (numeric : ∀ c ∈ digits, c.isDigit = true) (nonempty : digits ≠ [])
    (s : Text) :
    trimStart (digits ++ s) = digits ++ s := by
  obtain ⟨c, rest, rfl⟩ := List.exists_cons_of_ne_nil nonempty
  exact trimStart_cons_of_not_blank _ (isBlank_of_isDigit (numeric c List.mem_cons_self))

/-- A year without a sign is read in four digits. -/
theorem year_digit (digit : c.isDigit = true) (s : Text) :
    year (c :: s) = (number 4 (c :: s)).map fun (n, rest) => ((n : Int), rest) := by
  rw [year]
  · cases number 4 (c :: s) <;> rfl
  · rintro rest ⟨⟩
    cases digit
  · rintro rest ⟨⟩
    cases digit

section Padded
variable (positive : 0 < width) (fits : n < 10 ^ width)

include positive fits

@[simp] theorem paddedDigits_ne_nil : Decimal.paddedDigits width n ≠ [] := by
  intro none
  have length := Decimal.length_paddedDigits positive fits
  rw [none, List.length_nil] at length
  omega

theorem trimStart_paddedDigits (s : Text) :
    trimStart (Decimal.paddedDigits width n ++ s) = Decimal.paddedDigits width n ++ s :=
  trimStart_digits (Decimal.isDigit_of_mem_paddedDigits width n)
    (paddedDigits_ne_nil positive fits) s

theorem number_paddedDigits (narrow : width ≤ 18) (s : Text) :
    number width (trimStart (Decimal.paddedDigits width n ++ s)) = .ok (n, s) := by
  rw [trimStart_paddedDigits positive fits]
  have bound : 10 ^ width ≤ 10 ^ 18 := Nat.pow_le_pow_right (by decide) narrow
  have small : n < twoTo 63 := by
    rw [show twoTo 63 = 2 ^ 63 from rfl]
    omega
  have read := number_append (Decimal.isDigit_of_mem_paddedDigits width n)
    (paddedDigits_ne_nil positive fits) (by rwa [Decimal.ofDigitChars_paddedDigits]) s
  rwa [Decimal.length_paddedDigits positive fits, Decimal.ofDigitChars_paddedDigits] at read

theorem exactDigits_paddedDigits (s : Text) :
    exactDigits width (Decimal.paddedDigits width n ++ s) = .ok (n, s) := by
  have read := exactDigits_append (Decimal.isDigit_of_mem_paddedDigits width n) s
  rwa [Decimal.length_paddedDigits positive fits, Decimal.ofDigitChars_paddedDigits] at read

end Padded

theorem year_paddedDigits {n : Nat} (fits : n < 10 ^ 4) (s : Text) :
    year (trimStart (Decimal.paddedDigits 4 n ++ s)) = .ok ((n : Int), s) := by
  have read := number_paddedDigits (by decide) fits (by decide) s
  rw [trimStart_paddedDigits (by decide) fits] at read ⊢
  obtain ⟨c, rest, first⟩ := List.exists_cons_of_ne_nil (paddedDigits_ne_nil (by decide) fits)
  have digit : c.isDigit = true :=
    Decimal.isDigit_of_mem_paddedDigits 4 n c (first ▸ List.mem_cons_self)
  rw [first, List.cons_append] at read ⊢
  rw [year_digit digit, read]
  rfl

/-! ## Literals -/

@[simp] theorem literal_nil (s : Text) : literal [] s = .ok ((), s) := by
  rw [literal, byteLength, if_neg (Nat.not_lt_zero _), after?]

@[simp] theorem literal_cons (c : Char) (text s : Text) :
    literal (c :: text) (c :: s) = literal text s := by
  have bytes : byteLength (c :: s) < byteLength (c :: text) ↔ byteLength s < byteLength text := by
    rw [byteLength, byteLength, Nat.add_lt_add_iff_left]
  simp only [literal, bytes, after?, if_true]

/-- A literal character takes in that character, whether it makes a step of its own or joins the
next one. -/
theorem run_prependLiteral (unblank : isBlank c = false) (f : DateFields) (s : Text)
    (steps : List DateStep) :
    run f (c :: s) (DateStep.prependLiteral c steps) = run f s steps := by
  have alone : run f (c :: s) (.literal [c] :: steps) = run f s steps := by
    rw [run, literal_cons, literal_nil]
    rfl
  unfold DateStep.prependLiteral
  rw [if_neg (by rw [unblank]; exact Bool.false_ne_true)]
  split
  · next mark => rw [← mark, alone]
  · split
    · next d text rest =>
      split
      · exact alone
      · rw [run, run, literal_cons]
    · exact alone

theorem run_literals {t : Text} (unblank : ∀ c ∈ t, isBlank c = false) (f : DateFields) (s : Text)
    (items : List DateItem) :
    run f (t ++ s) (DateStep.ofItems (t.map .literal ++ items))
      = run f s (DateStep.ofItems items) := by
  induction t with
  | nil => rfl
  | cons c t ih =>
    rw [List.forall_mem_cons] at unblank
    rw [List.cons_append, List.map_cons, List.cons_append, DateStep.ofItems,
      run_prependLiteral unblank.1, ih unblank.2]

end DateReader

end TrajectoryFormat

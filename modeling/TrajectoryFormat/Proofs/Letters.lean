import TrajectoryFormat.Proofs.Numerals
import TrajectoryFormat.Text.Casing
import TrajectoryFormat.Text.WordChar

/-!
# Letters of ASCII

The letters, digits and low lines that identifiers are made of, by their places in ASCII. None of
them is blank, all of them are word characters, and a small letter stands in for its capital and for
nothing else.
-/

namespace TrajectoryFormat.Text

/-! ## Places -/

theorem isUpper_iff {c : Char} : c.isUpper = true ↔ 65 ≤ c.toNat ∧ c.toNat ≤ 90 := by
  have places : c.isUpper = decide ('A'.val ≤ c.val ∧ c.val ≤ 'Z'.val) := rfl
  simp [places, UInt32.le_iff_toNat_le]

theorem isLower_iff {c : Char} : c.isLower = true ↔ 97 ≤ c.toNat ∧ c.toNat ≤ 122 := by
  have places : c.isLower = (decide ('a'.val ≤ c.val) && decide (c.val ≤ 'z'.val)) := rfl
  simp [places, UInt32.le_iff_toNat_le]

theorem isAlpha_iff {c : Char} :
    c.isAlpha = true ↔ (65 ≤ c.toNat ∧ c.toNat ≤ 90) ∨ 97 ≤ c.toNat ∧ c.toNat ≤ 122 := by
  have either : c.isAlpha = (c.isUpper || c.isLower) := rfl
  rw [either, Bool.or_eq_true, isUpper_iff, isLower_iff]

theorem continuesIdentifier_iff {c : Char} :
    continuesIdentifier c = true ↔
      (48 ≤ c.toNat ∧ c.toNat ≤ 57) ∨ (65 ≤ c.toNat ∧ c.toNat ≤ 90) ∨ c.toNat = 95
        ∨ 97 ≤ c.toNat ∧ c.toNat ≤ 122 := by
  have lowLine : c = '_' ↔ c.toNat = 95 := Char.toNat_inj.symm
  have digit : c.isDigit = true ↔ 48 ≤ c.toNat ∧ c.toNat ≤ 57 := Char.isDigit_iff_toNat
  rw [continuesIdentifier, Char.isAlphanum, Bool.or_eq_true, Bool.or_eq_true, beq_iff_eq, lowLine,
    isAlpha_iff, digit]
  omega

/-- What holds of the first 128 characters holds of every ASCII character. -/
theorem forall_ascii {p : Char → Prop} (h : ∀ n < 128, p (Char.ofNat n)) (c : Char)
    (ascii : c.toNat < 128) : p c := by
  have := h c.toNat ascii
  rwa [Char.ofNat_toNat] at this

theorem continuesIdentifier_of_isAlpha {c : Char} (letter : c.isAlpha = true) :
    continuesIdentifier c = true := by
  simp [continuesIdentifier, Char.isAlphanum, letter]

theorem isAlpha_of_isDigit {c : Char} (digit : c.isDigit = true) : c.isAlpha = false := by
  have := toNat_of_isDigit digit
  rw [Bool.eq_false_iff, ne_eq, isAlpha_iff]
  omega

theorem isBlank_of_continuesIdentifier {c : Char} (letter : continuesIdentifier c = true) :
    isBlank c = false := by
  have place := continuesIdentifier_iff.mp letter
  exact isBlank_of_graphic (by omega) (by omega)

theorem isAlpha_of_isBlank {c : Char} (blank : isBlank c = true) : c.isAlpha = false := by
  rw [Bool.eq_false_iff]
  intro letter
  rw [isBlank_of_continuesIdentifier (continuesIdentifier_of_isAlpha letter)] at blank
  cases blank

theorem flat_of_continuesIdentifier {c : Char} (letter : continuesIdentifier c = true) :
    c ≠ '(' ∧ c ≠ ')' := by
  constructor
  · rintro rfl
    exact absurd letter (by decide)
  · rintro rfl
    exact absurd letter (by decide)

/-- Letters, digits and low lines are word characters, and other than low lines they are
alphanumeric. -/
theorem wordChar_of_continuesIdentifier {c : Char} (letter : continuesIdentifier c = true) :
    isWord c = true ∧ (isAlphanumeric c || c == '_') = true := by
  have ascii : c.toNat < 128 := by
    have place := continuesIdentifier_iff.mp letter
    omega
  revert letter
  exact forall_ascii (p := fun c => continuesIdentifier c = true →
    isWord c = true ∧ (isAlphanumeric c || c == '_') = true) (by decide +kernel) c ascii

/-- Combining marks lie outside ASCII. -/
theorem isMark_of_ascii {c : Char} (ascii : c.toNat < 128) : isMark c = false := by
  have outside : ∀ run ∈ markRanges, 128 ≤ run.1 := by decide +kernel
  rw [isMark, Bool.eq_false_iff]
  intro inside
  obtain ⟨run, mem, least, _⟩ := inRanges_iff.mp inside
  have := outside run mem
  omega

/-! ## Small and capital letters -/

theorem toNat_toLower (c : Char) :
    c.toLower.toNat = if 65 ≤ c.toNat ∧ c.toNat ≤ 90 then c.toNat + 32 else c.toNat := by
  have upper : (c.val ≥ 'A'.val ∧ c.val ≤ 'Z'.val) ↔ 65 ≤ c.toNat ∧ c.toNat ≤ 90 := by
    simp [UInt32.le_iff_toNat_le]
  unfold Char.toLower
  split
  · next h =>
    rw [if_pos (upper.mp h), Char.toNat_mk, UInt32.toNat_add, Char.toNat_val]
    have := (upper.mp h).2
    exact Nat.mod_eq_of_lt (by simp; omega)
  · next h => rw [if_neg fun place => h (upper.mpr place)]

theorem toNat_toUpper (c : Char) :
    c.toUpper.toNat = if 97 ≤ c.toNat ∧ c.toNat ≤ 122 then c.toNat - 32 else c.toNat := by
  have lower : ('a'.val ≤ c.val ∧ c.val ≤ 'z'.val) ↔ 97 ≤ c.toNat ∧ c.toNat ≤ 122 := by
    simp [UInt32.le_iff_toNat_le]
  unfold Char.toUpper
  split
  · next h =>
    rw [if_pos (lower.mp h), Char.toNat_mk, UInt32.toNat_add, Char.toNat_val]
    have := lower.mp h
    simp
    omega
  · next h => rw [if_neg fun place => h (lower.mpr place)]

@[simp] theorem isBlank_toLower (c : Char) : isBlank c.toLower = isBlank c := by
  have place := toNat_toLower c
  split at place
  · rw [isBlank_of_graphic (by omega) (by omega), isBlank_of_graphic (by omega) (by omega)]
  · rw [Char.toNat_inj.mp place]

theorem continuesIdentifier_toLower (c : Char) :
    continuesIdentifier c.toLower = continuesIdentifier c := by
  rw [Bool.eq_iff_iff, continuesIdentifier_iff, continuesIdentifier_iff, toNat_toLower]
  split <;> omega

/-- A character that is no letter is the small form of itself alone. -/
theorem toLower_ne {a c : Char} (noLetter : a.isAlpha = false) (other : c ≠ a) :
    c.toLower ≠ a.toLower := by
  intro same
  have places : ¬ ((65 ≤ a.toNat ∧ a.toNat ≤ 90) ∨ 97 ≤ a.toNat ∧ a.toNat ≤ 122) := by
    rw [← isAlpha_iff, noLetter]
    exact Bool.false_ne_true
  apply other
  rw [← Char.toNat_inj] at same ⊢
  rw [toNat_toLower, toNat_toLower] at same
  split_ifs at same <;> omega

/-- A character that is no small letter comes back from its small form. -/
theorem toUpper_toLower {c : Char} (noSmall : c.isLower = false) : c.toLower.toUpper = c := by
  have place : ¬ (97 ≤ c.toNat ∧ c.toNat ≤ 122) := by
    rw [← isLower_iff, noSmall]
    exact Bool.false_ne_true
  rw [← Char.toNat_inj, toNat_toUpper, toNat_toLower]
  split_ifs <;> omega

theorem eq_of_lower_eq {v w : Text} (noSmall : ∀ c ∈ v ++ w, c.isLower = false)
    (same : lower v = lower w) : v = w := by
  have back : ∀ {s : Text}, (∀ c ∈ s, c.isLower = false) → (lower s).map Char.toUpper = s := by
    intro s capital
    rw [lower, List.map_map]
    exact (List.map_congr_left fun c mem => toUpper_toLower (capital c mem)).trans (List.map_id s)
  rw [List.forall_mem_append] at noSmall
  rw [← back noSmall.1, ← back noSmall.2, same]

end TrajectoryFormat.Text

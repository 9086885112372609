import TrajectoryFormat.Number
import TrajectoryFormat.Text

/-!
# Whole numbers in text

Natural numbers are written in decimal digits without a sign and integers with `-` when negative.
Reading takes ASCII digits after at most one `+`, and refuses a number that is not below the limit.
-/

namespace TrajectoryFormat.Number

def ofNat (n : Nat) : Text := Nat.toDigits 10 n

/-- The decimal digits of an integer, `-` before those of a negative one. -/
def ofInt (n : Int) : Text := if n < 0 then '-' :: ofNat n.natAbs else ofNat n.natAbs

def isDigits (s : Text) : Bool := !s.isEmpty && s.all Char.isDigit

def value (digits : Text) : Nat := Nat.ofDigitChars 10 digits 0

/-- Without one `+` at the beginning. -/
def dropPlus : Text → Text
  | '+' :: s => s
  | s => s

/-- Reads a natural number below `limit`. -/
def read? (limit : Nat) (s : Text) : Option Nat :=
  let digits := dropPlus s
  if isDigits digits && value digits < limit then some (value digits) else none

def limit32 : Nat := twoTo 32

def limit64 : Nat := twoTo 64

theorem read?_lt {limit : Nat} {s : Text} {n : Nat} (h : read? limit s = some n) : n < limit := by
  simp only [read?] at h
  split at h
  · simp_all
  · simp at h

theorem dropPlus_of_isDigits {s : Text} (digits : isDigits s = true) : dropPlus s = s := by
  cases s with
  | nil => rfl
  | cons c s =>
    have first : c.isDigit = true := by
      simp only [isDigits, List.all_cons, Bool.and_eq_true] at digits
      exact digits.2.1
    unfold dropPlus
    split
    · next h =>
      cases h
      exact absurd first (by decide)
    · rfl

/-- Digits without a sign are read as the number they spell, if it is below the limit. -/
theorem read?_digits (limit : Nat) {s : Text} (digits : isDigits s = true) :
    read? limit s = if value s < limit then some (value s) else none := by
  simp [read?, dropPlus_of_isDigits digits, digits]

theorem read?_of_isDigits {limit : Nat} {s : Text} (digits : isDigits s = true)
    (bound : value s < limit) : read? limit s = some (value s) := by
  rw [read?_digits limit digits, if_pos bound]

@[simp] theorem value_ofNat (n : Nat) : value (ofNat n) = n := Nat.ofDigitChars_ten_toDigits

end TrajectoryFormat.Number

import TrajectoryFormat.Number

/-!
# Decimals

A decimal is a coefficient of at most 96 bits over a power of ten of at most 28. Equal numbers may
have several representations: the scale counts the places that are written. Zero has no sign.
-/

namespace TrajectoryFormat

open Number

/-- The first natural number that 96 bits cannot hold. -/
def coefficientLimit : Nat := twoTo 96

/-- The number `coefficient / 10 ^ scale`, within 96 bits and 28 places. -/
structure Decimal where
  coefficient : Int
  scale : Nat
  coefficient_lt : coefficient.natAbs < coefficientLimit
  scale_le : scale ≤ 28
deriving DecidableEq

namespace Decimal

/-- The decimal with this coefficient and scale, if both are within their bounds. -/
def make? (coefficient : Int) (scale : Nat) : Option Decimal :=
  if h : coefficient.natAbs < coefficientLimit ∧ scale ≤ 28
  then some ⟨coefficient, scale, h.1, h.2⟩
  else none

theorem make?_eq_some {c : Int} {s : Nat} {d : Decimal} (h : make? c s = some d) :
    d.coefficient = c ∧ d.scale = s := by
  simp only [make?] at h
  split at h
  · cases h; exact ⟨rfl, rfl⟩
  · simp at h

theorem make?_of_fits {c : Int} {s : Nat} (hc : c.natAbs < coefficientLimit) (hs : s ≤ 28) :
    make? c s = some ⟨c, s, hc, hs⟩ := dif_pos ⟨hc, hs⟩

def zero : Decimal := ⟨0, 0, by decide, by decide⟩

/-- An integer as a decimal without places, if 96 bits can hold it. -/
def ofInt? (n : Int) : Option Decimal := make? n 0

/-- The decimal nearest to `coefficient / 10 ^ scale` that drops as few places as its bounds allow.
A half goes to the even neighbour. There is none when the integer part alone is too large. -/
def fit? (coefficient : Int) (scale : Nat) : Option Decimal :=
  (List.range (scale + 1)).findSome? fun dropped =>
    make? (coefficient.sign * nearestEven coefficient.natAbs (tenTo dropped)) (scale - dropped)

theorem fit?_of_fits {c : Int} {s : Nat} (hc : c.natAbs < coefficientLimit) (hs : s ≤ 28) :
    fit? c s = some ⟨c, s, hc, hs⟩ := by
  have whole : c.sign * ((nearestEven c.natAbs 1 : Nat) : Int) = c := by
    rw [nearestEven_one]; exact Int.sign_mul_natAbs c
  simp only [fit?, List.range_succ_eq_map, List.findSome?_cons, tenTo_zero, Nat.sub_zero, whole,
    make?_of_fits hc hs]

/-- Rational order: `a < b` as numbers, whatever their scales. -/
def lt (a b : Decimal) : Bool :=
  a.coefficient * tenTo b.scale < b.coefficient * tenTo a.scale

/-- The sum. A zero leaves the other operand as it is written. -/
def add? (a b : Decimal) : Option Decimal :=
  if a.coefficient = 0 then some b
  else if b.coefficient = 0 then some a
  else
    let scale := max a.scale b.scale
    fit? (a.coefficient * tenTo (scale - a.scale) + b.coefficient * tenTo (scale - b.scale)) scale

def neg (a : Decimal) : Decimal :=
  { a with coefficient := -a.coefficient, coefficient_lt := by simpa using a.coefficient_lt }

/-- The difference. A zero leaves the other operand as it is written, but for its sign. -/
def sub? (a b : Decimal) : Option Decimal := add? a b.neg

/-- The product. Zero has no places, whatever the factors have. -/
def mul? (a b : Decimal) : Option Decimal :=
  if a.coefficient = 0 ∨ b.coefficient = 0 then some zero
  else fit? (a.coefficient * b.coefficient) (a.scale + b.scale)

/-- The integer part, toward zero. -/
def toInt (a : Decimal) : Int := a.coefficient.tdiv (tenTo a.scale)

/-- Ten to the power `n`, while 96 bits hold it. -/
def powerOfTen? (n : Nat) : Option Decimal := if n ≤ 28 then make? (tenTo n) 0 else none

def trimZeros (a : Decimal) : Decimal :=
  let rec drop (c : Int) : Nat → Int × Nat
    | 0 => (c, 0)
    | s + 1 => if c % 10 = 0 then drop (c / 10) s else (c, s + 1)
  let (c, s) := drop a.coefficient a.scale
  (make? c s).getD a

end Decimal

end TrajectoryFormat

/-!
# Numbers

The powers that digits and bits are counted by, quotients of natural numbers rounded to the nearest
one, and the integers that a signed word of 64 bits can hold.
-/

namespace TrajectoryFormat.Number

/-! ## Powers of two and of ten -/

/-- Two to the power `n`. -/
def twoTo (n : Nat) : Nat := Nat.pow 2 n

/-- Ten to the power `n`. -/
def tenTo (n : Nat) : Nat := Nat.pow 10 n

@[simp] theorem twoTo_zero : twoTo 0 = 1 := rfl

theorem twoTo_succ (n : Nat) : twoTo (n + 1) = twoTo n * 2 := rfl

@[simp] theorem tenTo_zero : tenTo 0 = 1 := rfl

theorem tenTo_succ (n : Nat) : tenTo (n + 1) = tenTo n * 10 := rfl

theorem twoTo_pos (n : Nat) : 0 < twoTo n := Nat.pow_pos (by decide)

theorem tenTo_pos (n : Nat) : 0 < tenTo n := Nat.pow_pos (by decide)

theorem tenTo_add (m n : Nat) : tenTo (m + n) = tenTo m * tenTo n := Nat.pow_add 10 m n

/-! ## Quotients rounded

A half goes to the even neighbour, or it goes up. -/

/-- The natural number nearest to `n / d`, the even one of two that are equally near. -/
def nearestEven (n d : Nat) : Nat :=
  let rest := 2 * (n % d)
  if d < rest || (rest == d && (n / d) % 2 == 1) then n / d + 1 else n / d

/-- The natural number nearest to `n / d`, the larger of two that are equally near. -/
def nearestUp (n d : Nat) : Nat :=
  if d ≤ 2 * (n % d) then n / d + 1 else n / d

@[simp] theorem nearestEven_one (n : Nat) : nearestEven n 1 = n := by
  simp [nearestEven, Nat.mod_one]

theorem nearestEven_bounds (n d : Nat) : n / d ≤ nearestEven n d ∧ nearestEven n d ≤ n / d + 1 := by
  simp only [nearestEven]
  split <;> omega

/-! ## Signed words

Sums and differences are refused where the result does not fit. -/

def FitsInt64 (n : Int) : Prop := -9223372036854775808 ≤ n ∧ n ≤ 9223372036854775807

instance (n : Int) : Decidable (FitsInt64 n) := inferInstanceAs (Decidable (_ ∧ _))

/-- The signed word of 64 bits with this value, if there is one. -/
def int64? (n : Int) : Option Int64 := if FitsInt64 n then some (Int64.ofInt n) else none

/-- The sum of two signed words, if it fits. -/
def addInt64? (a b : Int64) : Option Int64 := int64? (a.toInt + b.toInt)

/-- The difference of two signed words, if it fits. -/
def subInt64? (a b : Int64) : Option Int64 := int64? (a.toInt - b.toInt)

end TrajectoryFormat.Number

import TrajectoryFormat.Double

/-!
# Shortest whole numbers

A large double is a whole number, and many whole numbers round to it. The shortest is the one with
the most zeros at its end; of two that are equally long, the nearer.
-/

namespace TrajectoryFormat.Double

/-- Whether `n` lies among the numbers that round to `mantissa * 2 ^ exponent`. Twice their distance
is at most the gap to the neighbour on their side, and less than it where the mantissa is odd. -/
def roundsTo (mantissa exponent n : Nat) : Bool :=
  let value := mantissa * Number.twoTo exponent
  let gap := Number.twoTo exponent
  let gapBelow := if mantissa = Number.twoTo 52 then gap / 2 else gap
  let twice := if n < value then 2 * (value - n) else 2 * (n - value)
  let allowed := if n < value then gapBelow else gap
  twice < allowed || (twice == allowed && mantissa % 2 == 0)

/-- Of the two multiples of `unit` around the value, the nearer that rounds to it. -/
def multiple? (mantissa exponent unit : Nat) : Option Nat :=
  let value := mantissa * Number.twoTo exponent
  let below := value / unit * unit
  let above := below + unit
  let near := if value - below ≤ above - value then [below, above] else [above, below]
  near.find? (roundsTo mantissa exponent)

/-- The shortest whole number that rounds to `mantissa * 2 ^ exponent`, looking for `zeros` or fewer
zeros at its end. -/
def shortestWhole (mantissa exponent : Nat) : Nat → Nat
  | 0 => mantissa * Number.twoTo exponent
  | zeros + 1 =>
    match multiple? mantissa exponent (Number.tenTo (zeros + 1)) with
    | some n => n
    | none => shortestWhole mantissa exponent zeros

def shortest (mantissa exponent : Nat) : Nat :=
  shortestWhole mantissa exponent (Nat.toDigits 10 (mantissa * Number.twoTo exponent)).length

end TrajectoryFormat.Double

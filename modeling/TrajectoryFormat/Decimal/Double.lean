import TrajectoryFormat.Decimal
import TrajectoryFormat.Double

/-!
# Decimals and doubles

A decimal becomes a double through its integer part and its fraction. A double becomes a decimal by
turning its powers of two into powers of ten: while 96 bits suffice each half multiplies by five,
and where they do not the last bit is dropped. Then places are given up one at a time, a half going
up, until 28 remain and the coefficient is below 2 ^ 53.
-/

namespace TrajectoryFormat.Decimal

open Number

/-- A power of ten as a double, by squaring: `factor ^ n * result`. -/
def powerBySquaring (result factor : Float) (n : Nat) : Float :=
  if n = 0 then result
  else
    let result := if n % 2 = 1 then result * factor else result
    if n / 2 = 0 then result else powerBySquaring result (factor * factor) (n / 2)
termination_by n
decreasing_by omega

/-- The double of a decimal: integer part and fraction are converted on their own, and the sum is
rounded to the places of the decimal. -/
def toFloat (d : Decimal) : Float :=
  let size := d.coefficient.natAbs
  let signed := fun (x : Float) => if d.coefficient < 0 then -x else x
  if d.scale = 0 then signed (Double.ofNat size)
  else
    let unit := tenTo d.scale
    let whole := Double.ofNat (size / unit)
    let fraction := Double.ofNat (size % unit) / Double.ofNat unit
    if fraction == 0 then signed whole
    else
      let power := powerBySquaring 1 10 d.scale
      signed (((whole + fraction) * power).round / power)

/-- Divides by two `n` times: coefficient and exponent of ten afterwards. -/
def halve : Nat → Nat → Int → Nat × Int
  | 0, c, e => (c, e)
  | n + 1, c, e =>
    if c % 2 = 0 then halve n (c / 2) (e + 1)
    else if c * 5 < coefficientLimit then halve n (c * 5) e
    else halve n (c / 2) (e + 1)

/-- Multiplies by two `n` times: coefficient and exponent of ten afterwards. -/
def redouble : Nat → Nat → Int → Nat × Int
  | 0, c, e => (c, e)
  | n + 1, c, e =>
    if 2 * c < coefficientLimit then redouble n (c * 2) (e - 1) else redouble n (c / 5) e

/-- Gives up `n` places, a half going up at each. A number without digits left is zero. -/
def giveUp : Nat → Nat → Nat
  | 0, c => c
  | n + 1, c => if c / 10 = 0 then 0 else giveUp n (nearestUp c 10)

def shorten : Nat → Nat → Nat × Nat
  | 0, c => (c, 0)
  | s + 1, c => if c < twoTo 53 then (c, s + 1) else shorten s (nearestUp c 10)

/-- The coefficient and scale that stand for `mantissa * 2 ^ exponent`. -/
def expand (mantissa : Nat) (exponent : Int) : Nat × Nat :=
  let (c, e) :=
    if exponent < 0 then halve (-exponent).toNat mantissa exponent
    else redouble exponent.toNat mantissa exponent
  if 0 ≤ e then (c * tenTo e.toNat, 0)
  else
    let places := (-e).toNat
    shorten (min places 28) (giveUp (places - 28) c)

/-- The decimal that stands for a double. There is none for an infinity, for what is not a number,
and for a double whose integer part 96 bits cannot hold. -/
def ofDouble? : Double → Option Decimal
  | .finite negative mantissa exponent =>
    let (c, s) := expand mantissa exponent
    (make? (if negative then -c else c) s).map trimZeros
  | _ => none

/-- Rounded to at most `places` places, a half to the even neighbour. -/
def roundPlaces (places : Nat) (d : Decimal) : Decimal :=
  if d.scale ≤ places then d
  else
    let kept := nearestEven d.coefficient.natAbs (tenTo (d.scale - places))
    (make? (d.coefficient.sign * kept) places).getD d

end TrajectoryFormat.Decimal

import TrajectoryFormat.Number

/-!
# Doubles

A finite double is a mantissa below 2 ^ 53 times a power of two that is not below 2 ^ (-1074). It is
taken apart from its 64 bits, and put together as the double nearest to a quotient.
-/

namespace TrajectoryFormat

open Number

/-- A double by kind. The finite one is `mantissa * 2 ^ exponent`, with a sign. -/
inductive Double where
  | notANumber
  | infinite (negative : Bool)
  | finite (negative : Bool) (mantissa : Nat) (exponent : Int)
deriving DecidableEq, Repr

namespace Double

def ofBits (bits : UInt64) : Double :=
  let n := bits.toNat
  let negative := twoTo 63 ≤ n
  let exponent : Nat := n / twoTo 52 % twoTo 11
  let fraction : Nat := n % twoTo 52
  if exponent = 2047 then
    if fraction = 0 then .infinite negative else .notANumber
  else if exponent = 0 then .finite negative fraction (-1074)
  else .finite negative (twoTo 52 + fraction) ((exponent : Int) - 1075)

/-- A floating-point number, taken apart. -/
def ofFloat (x : Float) : Double := ofBits x.toBits

/-- The exponent of the double nearest to `numerator / denominator`: its mantissa has 53 bits, or
fewer at the lower end of the range. -/
def exponentOf (numerator denominator : Nat) : Int :=
  let guess : Int := numerator.log2 - denominator.log2 - 53
  let beyond :=
    denominator * twoTo (guess + 53).toNat ≤ numerator * twoTo (-(guess + 53)).toNat
  max (-1074) (if beyond then guess + 1 else guess)

/-- The mantissa, an exponent given, of the double nearest to a quotient. Of two that are equally
near it is the even one. -/
def mantissaOf (numerator denominator : Nat) (exponent : Int) : Nat :=
  nearestEven (numerator * twoTo (-exponent).toNat) (denominator * twoTo exponent.toNat)

/-- The floating-point number nearest to `numerator / denominator`. -/
def nearest (numerator denominator : Nat) : Float :=
  if numerator = 0 then 0
  else
    let exponent := exponentOf numerator denominator
    Float.scaleB (mantissaOf numerator denominator exponent).toUInt64.toFloat exponent

def ofNat (n : Nat) : Float := nearest n 1

def ofInt (n : Int) : Float := if n < 0 then -ofNat n.natAbs else ofNat n.natAbs

end Double

end TrajectoryFormat

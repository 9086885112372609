import TrajectoryFormat.Decimal
import TrajectoryFormat.Number.Digits
import TrajectoryFormat.Text.Blank

/-!
# Decimals in text

A decimal read from text is digits with at most one point among them, after at most one sign; low
lines may stand anywhere after the first digit. The first place that 28 places or 96 bits cannot
hold rounds the number, a half away from zero, and ends it: what follows is not looked at. In that
place a low line or a point counts as zero. The scientific form shifts the point by an exponent of
at most 28.

A decimal is written with all the places of its scale, a zero before the point where no integer part
is, and `-` where it is negative. No exponent is ever used.
-/

namespace TrajectoryFormat.Decimal

/-- What has been read of an unsigned decimal. -/
structure Reading where
  coefficient : Nat := 0
  scale : Nat := 0
  afterPoint : Bool := false
  anyDigit : Bool := false

/-- Rounds by the first digit that is left out. A carry past 96 bits gives up one more place. -/
def Reading.round? (r : Reading) (digit : Nat) : Option (Nat × Nat) :=
  if digit < 5 then some (r.coefficient, r.scale)
  else if r.coefficient + 1 < coefficientLimit then some (r.coefficient + 1, r.scale)
  else if r.scale = 0 then none
  else some (Number.nearestUp (r.coefficient + 1) 10, r.scale - 1)

/-- Reads the rest of an unsigned decimal: coefficient and scale. -/
def Reading.run (r : Reading) : Text → Option (Nat × Nat)
  | [] => if r.anyDigit then some (r.coefficient, r.scale) else none
  | c :: rest =>
    if c.isDigit then
      let digit := c.toNat - '0'.toNat
      let next := r.coefficient * 10 + digit
      if r.afterPoint && (28 ≤ r.scale || coefficientLimit ≤ next) then r.round? digit
      else if coefficientLimit ≤ next then none
      else
        let scale := if r.afterPoint then r.scale + 1 else 0
        { r with coefficient := next, scale, anyDigit := true }.run rest
    else if c = '.' && !r.afterPoint then { r with afterPoint := true }.run rest
    else if 28 ≤ r.scale && (c = '_' || c = '.') then r.round? 0
    else if c = '_' && r.anyDigit then r.run rest
    else none

/-- A minus sign, and what follows the sign. -/
def signed : Text → Bool × Text
  | '-' :: s => (true, s)
  | '+' :: s => (false, s)
  | s => (false, s)

def read? (s : Text) : Option Decimal := do
  let (negative, digits) := signed s
  let (coefficient, scale) ← ({} : Reading).run digits
  make? (if negative then -coefficient else coefficient) scale

/-- The largest exponent of the scientific form. -/
def maxExponent : Nat := 28

/-- The number at `scale` places. Of places that are left out only the first one counts: from five
on it rounds the number away from zero. -/
def atScale? (coefficient : Int) (places scale : Nat) : Option Decimal :=
  make? (coefficient.sign * Number.nearestUp coefficient.natAbs (Number.tenTo (places - scale)))
    scale

/-- Shifts the point by an exponent, to the left after `-`. Places beyond the last one are rounded
off. A shift to the right beyond the places of the number multiplies, and then no places are
left. -/
def shift? (d : Decimal) : Text → Option Decimal
  | '-' :: exponent => do
    let n ← Number.read? Number.limit32 exponent
    if maxExponent < n then none else atScale? d.coefficient (d.scale + n) (min 28 (d.scale + n))
  | exponent => do
    let n ← Number.read? Number.limit32 exponent
    if n ≤ d.scale then make? d.coefficient (d.scale - n)
    else if n ≤ maxExponent then make? (d.coefficient * Number.tenTo (n - d.scale)) 0
    else none

/-- Reads a decimal in the scientific form, plain decimal and exponent around the first `e` or
`E`. -/
def readScientific? (s : Text) : Option Decimal :=
  match s.span fun c => c != 'e' && c != 'E' with
  | (base, _ :: exponent) => do (← read? base).shift? exponent
  | (_, []) => none

/-- Reads a decimal in the plain or the scientific form, blanks around it left out. -/
def readNumber? (s : Text) : Option Decimal :=
  read? (Text.trim s) <|> readScientific? (Text.trim s)

/-- The digits of a number, zeros in front to fill the width. -/
def paddedDigits (width n : Nat) : Text :=
  let digits := Number.ofNat n
  List.replicate (width - digits.length) '0' ++ digits

def render (d : Decimal) : Text :=
  let size := d.coefficient.natAbs
  let sign : Text := if d.coefficient < 0 then "-" else ""
  let whole := Number.ofNat (size / Number.tenTo d.scale)
  if d.scale = 0 then sign ++ whole
  else sign ++ whole ++ "." ++ paddedDigits d.scale (size % Number.tenTo d.scale)

end TrajectoryFormat.Decimal

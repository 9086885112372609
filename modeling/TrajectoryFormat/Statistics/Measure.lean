import TrajectoryFormat.Double

/-!
# Measures

The numbers that statistics are computed with. The engine is written over any such numbers: it runs
over floating-point numbers, where some values are no number and two are infinite.
-/

namespace TrajectoryFormat.Statistics

/-- The operations that statistics need of numbers. -/
class Measure (α : Type) extends Add α, Sub α, Mul α, Div α where
  ofNat : Nat → α
  magnitude : α → α
  squareRoot : α → α
  less : α → α → Bool
  isZero : α → Bool
  isNumber : α → Bool
  aboveAll : α
  belowAll : α

namespace Measure

variable {α : Type} [Measure α]

def zero : α := ofNat 0

end Measure

instance : Measure Float where
  ofNat := Double.ofNat
  magnitude := Float.abs
  squareRoot := Float.sqrt
  less x y := x < y
  isZero x := x == 0
  isNumber x := !x.isNaN
  aboveAll := 1 / 0
  belowAll := -1 / 0

/-- The extrema of a column: none before its first number. What is no number does not count. -/
structure Range (α : Type) where
  least : Option α := none
  greatest : Option α := none

namespace Range

variable {α : Type} [Measure α]

def lower (old : Option α) (v : α) : α :=
  match old with
  | none => v
  | some m => if Measure.less v m then v else m

def higher (old : Option α) (v : α) : α :=
  match old with
  | none => v
  | some m => if Measure.less m v then v else m

def add (r : Range α) (v : α) : Range α :=
  if Measure.isNumber v then ⟨some (lower r.least v), some (higher r.greatest v)⟩ else r

/-- The least value, above all numbers where there is none. -/
def low (r : Range α) : α := r.least.getD Measure.aboveAll

/-- The greatest value, below all numbers where there is none. -/
def high (r : Range α) : α := r.greatest.getD Measure.belowAll

/-- The extrema of two columns, the second through its two ends. -/
def merge (r s : Range α) : Range α := (r.add s.low).add s.high

end Range

end TrajectoryFormat.Statistics

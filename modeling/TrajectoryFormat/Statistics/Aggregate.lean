import TrajectoryFormat.Statistics.Measure

/-!
# Running aggregates

An aggregate keeps the sum, the sum of squares, the extrema and the count of a column of values.
Mean and variance follow from them. The variance is that of the whole column, and its magnitude is
taken against round-off. The count is a natural number, which agrees with a word of 64 bits as long
as fewer than 2 ^ 64 values are kept.
-/

namespace TrajectoryFormat.Statistics

/-- What is kept of a column of values. -/
structure Aggregate (α : Type) where
  sum : α
  sumOfSquares : α
  range : Range α
  count : Nat

/-- Extrema, mean and deviation of a column. -/
structure Summary (α : Type) where
  min : α
  max : α
  mean : α
  deviation : α

namespace Aggregate

variable {α : Type} [Measure α]

def empty : Aggregate α := ⟨Measure.zero, Measure.zero, {}, 0⟩

def add (a : Aggregate α) (v : α) : Aggregate α :=
  ⟨a.sum + v, a.sumOfSquares + v * v, a.range.add v, a.count + 1⟩

def mean (a : Aggregate α) : α :=
  if a.count = 0 then Measure.zero else a.sum / Measure.ofNat a.count

def variance (a : Aggregate α) : α :=
  if a.count = 0 then Measure.zero
  else
    let n := Measure.ofNat a.count
    Measure.magnitude (a.sumOfSquares - a.sum * a.sum / n) / n

def deviation (a : Aggregate α) : α := Measure.squareRoot a.variance

/-- The summary of a column, all zero for the empty one. -/
def summary (a : Aggregate α) : Summary α :=
  if a.count = 0 then ⟨Measure.zero, Measure.zero, Measure.zero, Measure.zero⟩
  else ⟨a.range.low, a.range.high, a.mean, a.deviation⟩

end Aggregate

end TrajectoryFormat.Statistics

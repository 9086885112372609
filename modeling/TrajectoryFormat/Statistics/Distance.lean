import TrajectoryFormat.Vocabulary.CoordinateSystem

/-!
# Distances

The distance of two points, straight in the plane or along the globe in kilometres.
-/

namespace TrajectoryFormat.Statistics

/-- A point of a trajectory in space and time. -/
structure Point (α : Type) where
  x : α
  y : α
  t : α
deriving DecidableEq

/-- The ways to measure how far two points are apart. -/
inductive Distance where
  | euclidean
  | greatCircle
deriving DecidableEq, Repr

namespace Distance

def ofSystem : CoordinateSystem → Distance
  | .cartesian => euclidean
  | .geographic => greatCircle

def name : Distance → Text
  | euclidean => "euclidean"
  | greatCircle => "great-circle"

/-- The long side of a right triangle. The short sides are scaled to about one, so that their
squares neither overflow nor vanish. -/
def hypotenuse (a b : Float) : Float :=
  let a := a.abs
  let b := b.abs
  if a.isInf || b.isInf then 1 / 0
  else
    let size := if a < b then b else a
    if size == 0 || a.isNaN || b.isNaN then a + b
    else
      let exponent := size.frExp.2
      let a := a.scaleB (-exponent)
      let b := b.scaleB (-exponent)
      (a * a + b * b).sqrt.scaleB exponent

/-- The mean radius of the Earth in kilometres. -/
def earthRadius : Float := 6371

def radians (degrees : Float) : Float := degrees * (3.141592653589793 / 180)

def square (x : Float) : Float := x * x

/-- The haversine distance of two points given by longitude and latitude in degrees. -/
def haversine (lon₁ lat₁ lon₂ lat₂ : Float) : Float :=
  let a := square (radians (lat₂ - lat₁) / 2).sin
    + (radians lat₁).cos * (radians lat₂).cos * square (radians (lon₂ - lon₁) / 2).sin
  let chord := a.sqrt
  2 * earthRadius * (if chord < 1 then chord else 1).asin

def between : Distance → Point Float → Point Float → Float
  | euclidean, p, q => hypotenuse (q.x - p.x) (q.y - p.y)
  | greatCircle, p, q => haversine p.x p.y q.x q.y

end Distance

end TrajectoryFormat.Statistics

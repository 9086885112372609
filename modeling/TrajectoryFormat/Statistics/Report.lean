import TrajectoryFormat.Decimal.Double
import TrajectoryFormat.Decimal.Notation
import TrajectoryFormat.Double.Shortest
import TrajectoryFormat.Json
import TrajectoryFormat.Statistics.Engine

/-!
# The report

The statistics as lines of a name and a figure, parted by a tab. A figure has at most five places, a
half going to the even neighbour, and no zeros at the end. Zero has no sign. A number too large for
a decimal is the shortest whole number that reads back as it.
-/

namespace TrajectoryFormat.Statistics

/-- The places of a figure. -/
def figurePlaces : Nat := 5

def figureOf (d : Double) : Text :=
  match Decimal.ofDouble? d, d with
  | some decimal, _ => (decimal.roundPlaces figurePlaces).trimZeros.render
  | none, .notANumber => "NaN"
  | none, .infinite negative => if negative then "-inf" else "inf"
  | none, .finite negative mantissa exponent =>
    let digits := Number.ofNat (Double.shortest mantissa exponent.toNat)
    if negative then '-' :: digits else digits

def figure (x : Float) : Text := figureOf (Double.ofFloat x)

namespace Report

def summaryEntries (names : Text × Text × Text × Text) (s : Summary Float) : List (Text × Text) :=
  let (min, max, mean, deviation) := names
  [(min, figure s.min), (max, figure s.max), (mean, figure s.mean), (deviation, figure s.deviation)]

/-- The lines of a report, each a name and a figure. -/
def entries (r : Report Float) : List (Text × Text) :=
  let counts : List (Text × Text) :=
    [("NUM_TRAJECTORIES", Number.ofNat r.trajectories), ("NUM_POINTS", Number.ofNat r.points)]
  let coverage : List (Text × Text) :=
    [("MIN_X", figure r.least.x), ("MIN_Y", figure r.least.y), ("MIN_T", figure r.least.t),
     ("MAX_X", figure r.greatest.x), ("MAX_Y", figure r.greatest.y), ("MAX_T", figure r.greatest.t)]
  counts
    ++ summaryEntries ("MIN_PTS_PER_TRAJECTORY", "MAX_PTS_PER_TRAJECTORY", "AVG_PTS_PER_TRAJECTORY",
        "STD_PTS_PER_TRAJECTORY") r.pointCount
    ++ summaryEntries ("MIN_TRAJECTORY_LENGTH", "MAX_TRAJECTORY_LENGTH", "AVG_TRAJECTORY_LENGTH",
        "STD_TRAJECTORY_LENGTH") r.length
    ++ summaryEntries ("MIN_TRAJECTORY_DURATION", "MAX_TRAJECTORY_DURATION",
        "AVG_TRAJECTORY_DURATION", "STD_TRAJECTORY_DURATION") r.duration
    ++ summaryEntries ("MIN_TRAJECTORY_SPEED", "MAX_TRAJECTORY_SPEED", "AVG_TRAJECTORY_SPEED",
        "STD_TRAJECTORY_SPEED") r.speed
    ++ summaryEntries ("MIN_SAMPLING_RATE", "MAX_SAMPLING_RATE", "AVG_SAMPLING_RATE",
        "STD_SAMPLING_RATE") r.samplingRate
    ++ coverage

def render (r : Report Float) : Text :=
  Text.join "\n" (r.entries.map fun (name, figure) => name ++ '\t' :: figure)

def toJson (r : Report Float) : Json :=
  .object (r.entries.map fun (name, figure) => (name, .text figure))

end Report

end TrajectoryFormat.Statistics

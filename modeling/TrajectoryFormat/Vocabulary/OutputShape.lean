import TrajectoryFormat.Vocabulary.Keyword

/-!
# Output shapes

How much of a point a written record shows: its position, its position and time, or all of it.
-/

namespace TrajectoryFormat

/-- What is written of each point of a trajectory. -/
inductive OutputShape where
  | spatial
  | spatialTemporal
  | all
deriving DecidableEq, Repr

namespace OutputShape

def keyword : OutputShape → Keyword
  | spatial => .spatial
  | spatialTemporal => .spatialTemporal
  | all => .all

def name (shape : OutputShape) : Text := shape.keyword.name

/-- A shape by its name, in whatever case. -/
def ofName? (word : Text) : Option OutputShape :=
  match Keyword.lookupIgnoringCase? word with
  | some .spatial => some spatial
  | some .spatialTemporal => some spatialTemporal
  | some .all => some all
  | _ => none

def unknown (word : Text) : Text :=
  "unknown output format '" ++ word ++ "' (expected ALL, SPATIAL or SPATIAL_TEMPORAL)"

end OutputShape

end TrajectoryFormat

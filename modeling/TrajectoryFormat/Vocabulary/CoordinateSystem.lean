import TrajectoryFormat.Vocabulary.Keyword

/-!
# Coordinate systems

Points lie in the plane, or on the globe by longitude and latitude.
-/

namespace TrajectoryFormat

/-- Where the points of a trajectory lie. -/
inductive CoordinateSystem where
  | cartesian
  | geographic
deriving DecidableEq, Repr

namespace CoordinateSystem

def keyword : CoordinateSystem → Keyword
  | cartesian => .cartesian
  | geographic => .geographic

def name (system : CoordinateSystem) : Text := system.keyword.name

/-- A system by its name, in whatever case. -/
def ofName? (word : Text) : Option CoordinateSystem :=
  match Keyword.lookupIgnoringCase? word with
  | some .cartesian => some cartesian
  | some .geographic => some geographic
  | _ => none

def unknown (word : Text) : Text := "unsupported coordinate system '" ++ word ++ "'"

end CoordinateSystem

end TrajectoryFormat

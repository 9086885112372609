import TrajectoryFormat.Date.Reader
import TrajectoryFormat.Statistics.Engine

/-!
# Refused records

Why a record is left out. A record that is refused leaves the others as they are.
-/

namespace TrajectoryFormat.Record

/-- Why a record is left out. -/
inductive RecordError where
  | missingCoordinates
  | emptyCoordinates
  | arityMismatch (items arity : Nat)
  | invalidNumber (value : Text)
  | invalidDate (error : DateValueError)
  | overflow (value : Text)
  | statistics (error : Statistics.StatisticsError)
deriving DecidableEq

namespace RecordError

def message : RecordError → Text
  | missingCoordinates => "Record has no coordinates attribute"
  | emptyCoordinates => "Coordinates array is empty"
  | arityMismatch items arity =>
    "Coordinates array has " ++ Number.ofNat items ++ " items, not a multiple of "
      ++ Number.ofNat arity ++ " attributes"
  | invalidNumber value => "Coordinate value '" ++ value ++ "' is not a number"
  | invalidDate error => error.message
  | overflow value => "Value '" ++ value ++ "' overflows its numeric range"
  | statistics error => "Statistics error: " ++ error.message

def source? : RecordError → Option Text
  | invalidDate error => some error.message
  | statistics error => some error.message
  | _ => none

end RecordError

end TrajectoryFormat.Record

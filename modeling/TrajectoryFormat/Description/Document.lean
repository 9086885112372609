import TrajectoryFormat.Description.DataFormat
import TrajectoryFormat.Json

/-!
# Data formats as documents

A compiled description written out: its attributes, the places of those with a meaning of their own,
the coordinates array and the settings. Lines are counted from one.
-/

namespace TrajectoryFormat

def Attribute.toJson (a : Attribute) : Json :=
  .object [
    ("name", .text a.name),
    ("type", .text a.declaredType),
    ("delimiter", .text a.delimiter),
    ("ignored", .bool a.isIgnored)]

def ArrayFormat.toJson (a : ArrayFormat) : Json :=
  .object [
    ("declaration", .text a.declaration),
    ("attributes", .list (a.attributes.map Attribute.toJson)),
    ("x_index", .ofNat? a.xIndex?),
    ("y_index", .ofNat? a.yIndex?),
    ("time_index", .ofNat? a.timeIndex?),
    ("spatial_dimensions", .number a.spatialDimensions)]

namespace DataFormat

/-- The numbers of the ignored lines, counted from one, in ascending order. -/
def ignoredLineNumbers (f : DataFormat) : List Nat :=
  (LineInterval.lineNumbers f.ignoredLines).map (· + 1)

def toJson (f : DataFormat) : Json :=
  .object [
    ("attributes", .list (f.attributes.map Attribute.toJson)),
    ("id_index", .ofNat? f.idIndex?),
    ("coordinates_index", .ofNat? f.coordinatesIndex?),
    ("coordinates", f.coordinates.elim .null ArrayFormat.toJson),
    ("coordinate_system", .text f.coordinateSystemName),
    ("decimal_precision", .number f.decimalPrecision),
    ("output_format", .text f.outputShape.name),
    ("records_delimiter", .text f.recordDelimiter.render),
    ("auto_id", .ofText? f.autoIdPrefix),
    ("ignored_lines", .list (f.ignoredLineNumbers.map fun (n : Nat) => .number n)),
    ("valid_attributes", .number f.validAttributes)]

end DataFormat

end TrajectoryFormat

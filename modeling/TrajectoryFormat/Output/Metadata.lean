import TrajectoryFormat.Output.Descriptor
import TrajectoryFormat.Statistics.Report

/-!
# The metadata of the output

The counts of files and of attributes, and the statistics of the dataset.
-/

namespace TrajectoryFormat.Output

def metadataName : Text := "metadata.meta"

def attributeCount (f : DataFormat) : OutputShape → Nat
  | .all => f.validAttributes
  | _ => 2

def coordinateCount (f : DataFormat) : OutputShape → Nat
  | .all => f.coordinates.elim 0 fun array => array.attributes.countP (!·.isIgnored)
  | .spatial => dimensions f
  | .spatialTemporal => dimensions f + 1

/-- The counts of a load of `files` files, and its statistics. -/
def metadata (f : DataFormat) (shape : OutputShape) (files : Nat)
    (statistics : Statistics.Report Float) : Text :=
  Text.join "\n"
    [line "NUM_FILES" (Number.ofNat files),
     line "NUM_ATTRIBUTES" (Number.ofNat (attributeCount f shape)),
     line "NUM_COORD_ATTRIBUTES" (Number.ofNat (coordinateCount f shape)),
     statistics.render]

end TrajectoryFormat.Output

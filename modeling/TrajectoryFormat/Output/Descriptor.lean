import TrajectoryFormat.Description.DataFormat

/-!
# The description of the output

The lines that describe the records written for a format and an output shape: four settings, the ID,
the coordinates, and for the full shape every further attribute. Axes are described by their basic
types, and dates, which are written as numbers, as integers.
-/

namespace TrajectoryFormat.Output

def descriptorName : Text := "output-format.tddf"

def line (name value : Text) : Text := name ++ '\t' :: value

/-- The coordinate system by its proper name, or as it was declared. -/
def systemName (f : DataFormat) : Text :=
  match f.coordinateSystem? with
  | some system => system.name
  | none => f.coordinateSystemName

def dimensions (f : DataFormat) : Nat := f.coordinates.elim 0 ArrayFormat.spatialDimensions

/-- The type of the ID that records are written with, if they have one. -/
def idType? (f : DataFormat) : Option Text :=
  match f.autoIdPrefix with
  | some _ => some (if f.isNumericAutoId then Keyword.integer.name else Keyword.string.name)
  | none => (f.idIndex?.bind (f.attributes[·]?)).map Attribute.declaredType

/-- The type that the values of an axis in space are written in. -/
def spaceType (array : ArrayFormat) (index? : Option Nat) : Text :=
  match index?.bind (array.attributes[·]?) with
  | some a => DeclaredType.basic a.declaredType
  | none => Keyword.decimal.name

def timeType (array : ArrayFormat) : Text :=
  match array.timeIndex?.bind (array.attributes[·]?) with
  | some a =>
    if DeclaredType.isDatetime a.declaredType then Keyword.integer.name
    else DeclaredType.basic a.declaredType
  | none => Keyword.decimal.name

/-- A name and a type, as they stand in an array declaration. -/
def item (name type : Text) : Text := name ++ ' ' :: type

/-- The items written for a point, each by name and type. -/
def pointItems (array : ArrayFormat) (shape : OutputShape) : List Text :=
  let x := item Keyword.x.name (spaceType array array.xIndex?)
  let y := item Keyword.y.name (spaceType array array.yIndex?)
  let time := item Keyword.time.name (timeType array)
  match shape with
  | .spatial => [x, y]
  | .spatialTemporal => [x, y, time]
  | .all => [x, y, time] ++ array.semanticAttributes.map fun a => item a.name a.declaredType

def furtherAttributes (f : DataFormat) : List Attribute :=
  (f.attributes.zipIdx.filter fun (a, i) => f.isFurther i a).map (·.1)

/-- The lines that describe the attributes written after the coordinates. -/
def furtherLines (f : DataFormat) : OutputShape → List Text
  | .all => (furtherAttributes f).map fun a => line a.name a.declaredType
  | _ => []

def coordinatesLine (array : ArrayFormat) (shape : OutputShape) : Text :=
  line Keyword.coordinates.name
    (arrayOpening ++ Text.join " " (pointItems array shape) ++ [')'])

/-- The description of the records written for a format in a shape. -/
def descriptor (f : DataFormat) (shape : OutputShape) : Text :=
  let settings :=
    [line Keyword.outputFormat.name shape.name,
     line Keyword.coordinateSystem.name (systemName f),
     line Keyword.decimalPrecision.name (Number.ofNat f.decimalPrecision),
     line Keyword.spatialDimensions.name (Number.ofNat (dimensions f))]
  let id := (idType? f).toList.map (line Keyword.id.name)
  let coordinates := f.coordinates.toList.map fun array => coordinatesLine array shape
  Text.join "\n" (settings ++ id ++ coordinates ++ furtherLines f shape)

end TrajectoryFormat.Output

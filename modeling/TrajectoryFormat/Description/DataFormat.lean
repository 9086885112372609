import TrajectoryFormat.Description.Attribute
import TrajectoryFormat.Description.LineInterval
import TrajectoryFormat.Vocabulary.CoordinateSystem
import TrajectoryFormat.Vocabulary.OutputShape

/-!
# Data formats

A data format is what a description says: the attributes in their order, the format of the
coordinates array, and the settings. It is built by one declaration after the other. A later setting
replaces an earlier one, but ignored lines add up, and the first coordinates array counts.
-/

namespace TrajectoryFormat

open Description

/-- How the lines of a data file make records. -/
inductive RecordDelimiter where
  | lineBreak
  | endOfFile
  | text (mark : Text)
deriving DecidableEq

namespace RecordDelimiter

def ofValue (value : Text) : RecordDelimiter :=
  match Keyword.lookup? value with
  | some .lineBreak => lineBreak
  | some .endOfFile => endOfFile
  | some .lineSpace => text " "
  | _ => text value

def render : RecordDelimiter → Text
  | lineBreak => Keyword.lineBreak.name
  | endOfFile => Keyword.endOfFile.name
  | text mark => mark

end RecordDelimiter

/-- What a description says. -/
structure DataFormat where
  attributes : List Attribute := []
  coordinates : Option ArrayFormat := none
  coordinateSystemName : Text := CoordinateSystem.cartesian.name
  decimalPrecision : Nat := 5
  outputShape : OutputShape := .all
  recordDelimiter : RecordDelimiter := .lineBreak
  autoIdPrefix : Option Text := none
  ignoredLines : List LineInterval := []
deriving DecidableEq

/-- A value of a setting that is passed over. -/
inductive FormatWarning where
  | lineInterval (item : Text)
  | outputShape (value : Text) (kept : OutputShape)
  | decimalPrecision (value : Text) (kept : Nat)
deriving DecidableEq

def FormatWarning.message : FormatWarning → Text
  | lineInterval item => "ignoring invalid line interval '" ++ item ++ "'"
  | outputShape value kept => OutputShape.unknown value ++ ", keeping " ++ kept.name
  | decimalPrecision value kept =>
    "invalid decimal precision '" ++ value ++ "', keeping " ++ Number.ofNat kept

namespace DataFormat

/-- The format after a setting. A value that cannot be used leaves it as it was. -/
def set (f : DataFormat) (name value : Text) : DataFormat :=
  match Keyword.lookup? name with
  | some .ignoreAttribute => { f with attributes := f.attributes ++ [Attribute.ignored value] }
  | some .ignoreLines => { f with ignoredLines := f.ignoredLines ++ LineInterval.ofList value }
  | some .coordinateSystem => { f with coordinateSystemName := value }
  | some .autoId => { f with autoIdPrefix := some value }
  | some .recordsDelimiter => { f with recordDelimiter := RecordDelimiter.ofValue value }
  | some .outputFormat =>
    { f with outputShape := (OutputShape.ofName? value).getD f.outputShape }
  | some .decimalPrecision =>
    { f with decimalPrecision := (Number.read? Number.limit32 value).getD f.decimalPrecision }
  | _ => f

def warnings (f : DataFormat) (name value : Text) : List FormatWarning :=
  match Keyword.lookup? name with
  | some .ignoreLines => (LineInterval.refused value).map .lineInterval
  | some .outputFormat =>
    if (OutputShape.ofName? value).isSome then [] else [.outputShape value f.outputShape]
  | some .decimalPrecision =>
    if (Number.read? Number.limit32 value).isSome then []
    else [.decimalPrecision value f.decimalPrecision]
  | _ => []

def addAttribute (f : DataFormat) (name type delimiter : Text) : DataFormat :=
  { f with
    attributes := f.attributes ++ [Attribute.declared name type delimiter]
    coordinates :=
      if name == Keyword.coordinates.name then
        f.coordinates <|> some (ArrayFormat.ofDeclaration type)
      else f.coordinates }

/-- The format after a declaration. One with another number of words is passed over. -/
def declare (f : DataFormat) (line : List Token) : DataFormat :=
  match line with
  | [name, value] => if name.isKind .command then f.set name.value value.value else f
  | [name, type, delimiter] =>
    if name.isKind .command then f else f.addAttribute name.value type.value delimiter.value
  | _ => f

def declarationWarnings (f : DataFormat) (line : List Token) : List FormatWarning :=
  match line with
  | [name, value] => if name.isKind .command then f.warnings name.value value.value else []
  | _ => []

def ofTokens (tokens : List Token) : DataFormat := (declarationLines tokens).foldl declare {}

/-- All that is passed over in a description, in order. -/
def warningsOf (tokens : List Token) : List FormatWarning :=
  let add := fun (f, passed) line => (declare f line, passed ++ declarationWarnings f line)
  ((declarationLines tokens).foldl add (({} : DataFormat), [])).2

def idIndex? (f : DataFormat) : Option Nat := position? f.attributes [.id]

def coordinatesIndex? (f : DataFormat) : Option Nat := position? f.attributes [.coordinates]

/-- The coordinate system, if its name is known. -/
def coordinateSystem? (f : DataFormat) : Option CoordinateSystem :=
  CoordinateSystem.ofName? f.coordinateSystemName

/-- The number that generated IDs continue, if the prefix is one. -/
def numericAutoId? (f : DataFormat) : Option Nat :=
  f.autoIdPrefix.bind (Number.read? Number.limit64)

def isNumericAutoId (f : DataFormat) : Bool := f.numericAutoId?.isSome

/-- Whether the attribute at a place is left out. No attribute stands beyond the last. -/
def isIgnored (f : DataFormat) (i : Nat) : Bool := f.attributes[i]?.any Attribute.isIgnored

/-- Whether the attribute at a place is written after the coordinates: it is neither the ID nor the
coordinates, and it is not left out. -/
def isFurther (f : DataFormat) (i : Nat) (a : Attribute) : Bool :=
  f.idIndex? != some i && f.coordinatesIndex? != some i && !a.isIgnored

/-- Whether the line with this number, counted from zero, is left out. -/
def ignoresLine (f : DataFormat) (line : Nat) : Bool := f.ignoredLines.any (·.contains line)

/-- The attributes that are not left out, a generated ID counting as one. -/
def validAttributes (f : DataFormat) : Nat :=
  f.attributes.countP (!·.isIgnored) + f.autoIdPrefix.toList.length

end DataFormat

end TrajectoryFormat

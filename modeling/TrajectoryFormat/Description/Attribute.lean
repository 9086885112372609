import TrajectoryFormat.Description.Token

/-!
# Attributes

An attribute has a name, a declared type and the delimiter that its values end at. The delimiter
words stand for a space, for the line bond, and for nothing: the value that goes on to the end of
the record. An array format is the list of attributes that an array declaration holds.
-/

namespace TrajectoryFormat

/-- A declared attribute. -/
structure Attribute where
  name : Text
  declaredType : Text
  delimiter : Text
deriving DecidableEq

def resolveDelimiter (delimiter : Text) : Text :=
  match Keyword.lookup? delimiter with
  | some .lineSpace => " "
  | some .lineBreak => [lineBond]
  | some .endOfFile => ""
  | _ => delimiter

namespace Attribute

def declared (name declaredType delimiter : Text) : Attribute :=
  ⟨name, declaredType, resolveDelimiter delimiter⟩

def ignoredName : Text := Keyword.ignoreAttribute.name

/-- A field that is left out, up to its delimiter. -/
def ignored (delimiter : Text) : Attribute := declared ignoredName ignoredName delimiter

def isIgnored (a : Attribute) : Bool := a.declaredType == ignoredName

def isNamed (a : Attribute) (k : Keyword) : Bool := a.name == k.name

end Attribute

/-- The place of the first attribute that has one of the names. -/
def position? (attributes : List Attribute) (names : List Keyword) : Option Nat :=
  attributes.findIdx? fun a => names.any a.isNamed

/-- The attributes inside an array declaration. -/
structure ArrayFormat where
  declaration : Text
  attributes : List Attribute
deriving DecidableEq

namespace ArrayFormat

/-- The attributes that the tokens of an array declare, three tokens each. Tokens left over are not
looked at. -/
def attributesOf : List Description.Token → List Attribute
  | name :: type :: delimiter :: rest =>
    Attribute.declared name.value type.value delimiter.value :: attributesOf rest
  | _ => []

def ofDeclaration (declaration : Text) : ArrayFormat :=
  ⟨declaration, attributesOf (Description.arrayTokens declaration)⟩

def xIndex? (a : ArrayFormat) : Option Nat := position? a.attributes [.x, .lon]

def yIndex? (a : ArrayFormat) : Option Nat := position? a.attributes [.y, .lat]

def timeIndex? (a : ArrayFormat) : Option Nat := position? a.attributes [.time]

def spatialDimensions (a : ArrayFormat) : Nat :=
  a.xIndex?.toList.length + a.yIndex?.toList.length

/-- A place that is neither of an axis in space nor of time. -/
def isSemantic (a : ArrayFormat) (i : Nat) : Bool :=
  a.xIndex? != some i && a.yIndex? != some i && a.timeIndex? != some i

/-- The attributes at places that are neither of an axis in space nor of time. -/
def semanticAttributes (a : ArrayFormat) : List Attribute :=
  (a.attributes.zipIdx.filter fun (_, i) => a.isSemantic i).map (·.1)

end ArrayFormat

end TrajectoryFormat

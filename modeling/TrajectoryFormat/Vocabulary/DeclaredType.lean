import TrajectoryFormat.Vocabulary.Keyword

/-!
# Declared types

A declared type is kept as it was written. It stands for a basic type: a delta type for the type of
the values it holds, an array and a date declaration for the bare word they open with.
-/

namespace TrajectoryFormat

/-- The text of an array declaration before its first triple. -/
def arrayOpening : Text := "ARRAY("

/-- The text of a date declaration before its quoted pattern. -/
def dateOpening : Text := "DATETIME["

namespace DeclaredType

/-- The basic type that a declared type stands for. A type that is no reserved form is its own. -/
def basic (declared : Text) : Text :=
  if declared.sameIgnoringCase Keyword.deltaDecimal.name then Keyword.decimal.name
  else if declared.sameIgnoringCase Keyword.deltaInteger.name then Keyword.integer.name
  else if dateOpening.opensWith declared then Keyword.datetime.name
  else if arrayOpening.opensWith declared then Keyword.array.name
  else declared

def isDecimal (declared : Text) : Bool := (basic declared).sameIgnoringCase Keyword.decimal.name

/-- Decimal or integer, absolute or delta. -/
def isNumber (declared : Text) : Bool :=
  isDecimal declared || (basic declared).sameIgnoringCase Keyword.integer.name

/-- A type whose values after the first are differences from the one before. -/
def isDelta (declared : Text) : Bool :=
  declared.sameIgnoringCase Keyword.deltaInteger.name
    || declared.sameIgnoringCase Keyword.deltaDecimal.name

def isDatetime (declared : Text) : Bool := basic declared == Keyword.datetime.name

def isArray (declared : Text) : Bool := basic declared == Keyword.array.name

end DeclaredType

end TrajectoryFormat

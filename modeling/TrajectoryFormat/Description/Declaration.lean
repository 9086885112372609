import TrajectoryFormat.Date.Pattern
import TrajectoryFormat.Description.LineInterval
import TrajectoryFormat.Description.Token
import TrajectoryFormat.Text.Pattern

/-!
# Declarations

Each declaration of a description is checked on its own. A setting has a name and a value of the
kind that the setting takes; an attribute has a name, a type and a delimiter. Array and date
declarations are checked inside. The first declaration that fails rejects the description.
-/

namespace TrajectoryFormat.Description

open Text

/-- What is wrong with an attribute. -/
inductive AttributeFault where
  | reservedName
  | noDelimiter
  | noBasicType
  | noArrayType
  | unknownType
deriving DecidableEq

/-- What is wrong with a setting. -/
inductive CommandFault where
  | coordinateSystem
  | spatialDimensions
  | lineList
  | idPrefix
  | attributeDelimiter
  | recordsDelimiter
  | precisionNotANumber
  | precisionTooLarge
  | precisionOutOfRange (precision : Nat)
  | outputShape
  | value
deriving DecidableEq

/-- What is wrong with an array declaration. -/
inductive ArrayFault where
  | shape
  | parameterCount
  | attribute (name : Text)
deriving DecidableEq

/-- Why a declaration is rejected. -/
inductive DeclarationError where
  | parameterCount (name : Text) (expected found : Nat)
  | attributeName (name : Text)
  | attribute (name : Text) (fault : AttributeFault)
  | command (name : Text) (fault : CommandFault)
  | array (declaration : Text) (fault : ArrayFault)
  | date (declaration : Text) (cause : Option DatePatternError)
deriving DecidableEq

/-- The largest decimal precision. -/
def maxPrecision : Nat := 28

def AttributeFault.message : AttributeFault → Text
  | reservedName => "name is a reserved word"
  | noDelimiter => "expected a delimiter as third parameter"
  | noBasicType => "must be of a basic type"
  | noArrayType => "must be of an ARRAY type"
  | unknownType => "unknown type"

def CommandFault.message : CommandFault → Text
  | coordinateSystem => "expected CARTESIAN or GEOGRAPHIC"
  | spatialDimensions => "dimensions must be 1, 2 or 3"
  | lineList => "expected a list such as [1,3-5]"
  | idPrefix => "check ID prefix declaration"
  | attributeDelimiter => "check attribute delimiter"
  | recordsDelimiter => "check records delimiter"
  | precisionNotANumber => "decimal precision must be an integer number"
  | precisionTooLarge => "decimal precision must not exceed " ++ Number.ofNat maxPrecision
  | precisionOutOfRange n => "precision " ++ Number.ofNat n ++ " is too large"
  | outputShape => "expected ALL, SPATIAL or SPATIAL_TEMPORAL"
  | value => "expected a string or a delimiter"

def ArrayFault.message : ArrayFault → Text
  | shape => "expected ARRAY(name TYPE delimiter ...)"
  | parameterCount => "number of parameters does not match"
  | .attribute name => "inner attribute '" ++ name ++ "' is in a wrong format"

namespace DeclarationError

def message : DeclarationError → Text
  | parameterCount name expected found =>
    "Declaration '" ++ name ++ "' must contain " ++ Number.ofNat expected ++ " parameters, found "
      ++ Number.ofNat found
  | attributeName name =>
    "Attribute name '" ++ name
      ++ "' must only contain letters, digits and underscores, and must not "
      ++ "start with a digit"
  | .attribute name fault =>
    "Attribute declaration '" ++ name ++ "' is in a wrong format: " ++ fault.message
  | command name fault =>
    "Command declaration '" ++ name ++ "' is in a wrong format: " ++ fault.message
  | array declaration fault =>
    "Array declaration '" ++ declaration ++ "' is in a wrong format: " ++ fault.message
  | date declaration (some cause) =>
    "Pattern of DATETIME declaration '" ++ declaration ++ "' is invalid: " ++ cause.message
  | date declaration none => "DATETIME declaration '" ++ declaration ++ "' is in a wrong format"

def source? : DeclarationError → Option Text
  | date _ (some cause) => some cause.message
  | _ => none

end DeclarationError

/-- Whether a text is a date declaration in form: one quoted line of text in brackets. -/
def hasDateForm (declaration : Text) : Bool :=
  let inner := declaration.drop patternOpening.length
  opensWith patternOpening declaration
    && patternClosing.isSuffixOf inner
    && (inner.take (inner.length - patternClosing.length)).all (· != '\n')

/-- The text between the first `["` and the last `"]`, if they stand in this order. -/
def quotedPattern? (declaration : Text) : Option Text := do
  let (_, inner) ← cut? "[\"" declaration
  beforeLast? patternClosing inner

def datePattern (declaration : Text) : Except DeclarationError DatePattern :=
  match quotedPattern? declaration with
  | some pattern =>
    if hasDateForm declaration then
      (DatePattern.compile pattern).mapError fun cause => .date declaration (some cause)
    else .error (.date declaration none)
  | none => .error (.date declaration none)

/-- The form of array declarations: triples of a name, a type and a delimiter, blanks between the
parts of a triple. A type is a word, a quoted date pattern or a nested array. -/
def arrayForm : Pattern :=
  let blank := Pattern.one .blank
  let word := Pattern.some (.one .word)
  let someText := Pattern.some (.one .inLine)
  let datePart := Pattern.all [.spelled patternOpening, someText, .spelled patternClosing]
  let arrayPart := Pattern.all [.spelled arrayOpening, someText, .spelled ")"]
  let type := Pattern.either datePart (.either arrayPart word)
  let delimiter := Pattern.either (.one .nonWord)
    (.either (.spelled "LN") (.either (.spelled "LS") (.spelled "EOF")))
  let triple := Pattern.all
    [.many blank, word, .some blank, type, .some blank, delimiter, .many blank]
  Pattern.all [.spelled arrayOpening, .some triple, .spelled ")"]

/-- The classes of type that an attribute of this name may have inside an array. -/
def arrayTypes (name : Text) : List LexicalClass :=
  match Keyword.lookup? name with
  | some .x | some .y | some .lon | some .lat => [.type, .deltaType]
  | some .time => [.type, .deltaType, .dateType]
  | _ => [.type, .dateType]

/-- Checks the triples of an array declaration, one after the other. -/
def checkTriples (declaration : Text) : List Token → Except DeclarationError Unit
  | name :: type :: delimiter :: rest => do
    if name.isKind .attribute && (arrayTypes name.value).contains type.kind
        && delimiter.isKind .delimiter then
      if type.isKind .dateType then discard (datePattern type.value)
      checkTriples declaration rest
    else throw (.array declaration (.attribute name.value))
  | _ => pure ()

def checkArray (declaration : Text) : Except DeclarationError Unit := do
  if !arrayForm.covers declaration then throw (.array declaration .shape)
  let tokens := arrayTokens declaration
  if tokens.isEmpty || tokens.length % 3 != 0 then throw (.array declaration .parameterCount)
  checkTriples declaration tokens

/-- Checks the type of an attribute against what its name asks for. -/
def checkType (name type : Token) : Except AttributeFault Unit :=
  match Keyword.lookup? name.value with
  | some .id => if type.isKind .type then pure () else throw .noBasicType
  | some .coordinates => if type.isKind .arrayType then pure () else throw .noArrayType
  | _ =>
    if [LexicalClass.type, .arrayType, .dateType].contains type.kind then pure ()
    else throw .unknownType

def checkAttribute (line : List Token) : Except DeclarationError Unit := do
  let [name, type, delimiter] := line
    | throw (.parameterCount (line.head?.elim "" Token.value) 3 line.length)
  if !isIdentifier name.value then throw (.attributeName name.value)
  if !name.isKind .attribute then throw (.attribute name.value .reservedName)
  if !delimiter.isKind .delimiter then throw (.attribute name.value .noDelimiter)
  (checkType name type).mapError (.attribute name.value)
  match type.kind with
  | .arrayType => checkArray type.value
  | .dateType => discard (datePattern type.value)
  | _ => pure ()

/-- Checks the value of a setting against what the setting takes. -/
def checkValue (name : Text) (value : Token) : Except CommandFault Unit :=
  let require (holds : Bool) (fault : CommandFault) : Except CommandFault Unit :=
    if holds then pure () else throw fault
  match Keyword.lookup? name with
  | some .coordinateSystem => require (value.isKind .coordinateSystem) .coordinateSystem
  | some .spatialDimensions =>
    require ((["1", "2", "3"] : List Text).contains value.value) .spatialDimensions
  | some .ignoreLines => require (LineInterval.isList value.value) .lineList
  | some .autoId => require (value.isKind .text) .idPrefix
  | some .ignoreAttribute => require (value.isKind .delimiter) .attributeDelimiter
  | some .recordsDelimiter => require (value.isKind .delimiter) .recordsDelimiter
  | some .decimalPrecision => do
    require (Number.isDigits value.value) .precisionNotANumber
    require (Number.value value.value ≤ maxPrecision) .precisionTooLarge
  | some .outputFormat => require (value.isKind .shape) .outputShape
  | _ => require (value.isKind .text || value.isKind .delimiter) .value

def checkCommand (line : List Token) : Except DeclarationError Unit := do
  let [name, value] := line
    | throw (.parameterCount (line.head?.elim "" Token.value) 2 line.length)
  (checkValue name.value value).mapError (.command name.value)

def checkLine (line : List Token) : Except DeclarationError Unit :=
  if line.head?.any (·.isKind .command) then checkCommand line else checkAttribute line

/-- Checks every declaration of a description, up to the first that fails. -/
def checkDeclarations (tokens : List Token) : Except DeclarationError Unit :=
  (declarationLines tokens).forM checkLine

end TrajectoryFormat.Description

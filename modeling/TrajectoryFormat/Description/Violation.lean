import TrajectoryFormat.Description.Attribute
import TrajectoryFormat.Description.LineInterval

/-!
# Violations

Rules that tie the declarations of a description together: one way to tell trajectories apart, a
coordinates array with two axes and time, names that differ, intervals that do not end before they
begin. All violations are found, not only the first.
-/

namespace TrajectoryFormat.Description

open Text

/-- A rule across declarations that is broken. -/
inductive Violation where
  | missingId
  | idAndAutoId
  | missingCoordinates
  | missingX
  | missingY
  | missingTime
  | duplicateAttribute (name : Text)
  | invalidInterval (first last : Nat)
deriving DecidableEq

def Violation.message : Violation → Text
  | missingId => "Data format must contain either the '_ID' attribute or the '_AUTO_ID' command"
  | idAndAutoId => "Attribute '_ID' and command '_AUTO_ID' cannot be declared together"
  | missingCoordinates => "Data format must contain the '_COORDINATES' attribute"
  | missingX => "Coordinates array must contain either the '_X' or the '_LON' attribute"
  | missingY => "Coordinates array must contain either the '_Y' or the '_LAT' attribute"
  | missingTime => "Coordinates array must contain the '_TIME' attribute"
  | duplicateAttribute name => "Attribute '" ++ name ++ "' declaration must be unique"
  | invalidInterval first last =>
    "Ignore lines interval '" ++ Number.ofNat first ++ "-" ++ Number.ofNat last
      ++ "' must not end before it begins"

/-- What the rules look at: the names of the attributes, and the last value of three
declarations. -/
structure Facts where
  attributeNames : List Text := []
  coordinatesType : Option Text := none
  ignoreLines : Option Text := none
  autoId : Option Text := none

namespace Facts

def add (facts : Facts) : List Token → Facts
  | [] => facts
  | name :: rest =>
    let value := rest.head?.map Token.value
    if name.isKind .command then
      match Keyword.lookup? name.value with
      | some .ignoreLines => { facts with ignoreLines := value }
      | some .autoId => { facts with autoId := value }
      | _ => facts
    else
      { facts with
        attributeNames := facts.attributeNames ++ [name.value]
        coordinatesType :=
          if name.value == Keyword.coordinates.name then value else facts.coordinatesType }

def ofTokens (tokens : List Token) : Facts := (declarationLines tokens).foldl add {}

/-- Trajectories have a declared ID or a generated one, and not both. -/
def identityViolations (facts : Facts) : List Violation :=
  match facts.attributeNames.contains Keyword.id.name, facts.autoId.isSome with
  | false, false => [.missingId]
  | true, true => [.idAndAutoId]
  | _, _ => []

def missingAxes (array : ArrayFormat) : List Violation :=
  (if array.xIndex?.isNone then [.missingX] else [])
    ++ (if array.yIndex?.isNone then [.missingY] else [])
    ++ (if array.timeIndex?.isNone then [.missingTime] else [])

def coordinatesViolations (facts : Facts) : List Violation :=
  match facts.coordinatesType with
  | none => [.missingCoordinates]
  | some declaration => missingAxes (ArrayFormat.ofDeclaration declaration)

/-- The names that occur again in another case or in the same, each once, as first spelled. `seen`
are the names before. -/
def duplicates (seen : List Text) : List Text → List Text
  | [] => []
  | name :: rest =>
    let again := !seen.any name.sameIgnoringCase && rest.any name.sameIgnoringCase
    if again then name :: duplicates (seen ++ [name]) rest else duplicates (seen ++ [name]) rest

def intervalViolations (facts : Facts) : List Violation :=
  match facts.ignoreLines with
  | none => []
  | some value => (LineInterval.inverted value).map fun (first, last) => .invalidInterval first last

end Facts

/-- The violations of a description, in the order in which the rules are checked. -/
def violations (tokens : List Token) : List Violation :=
  let facts := Facts.ofTokens tokens
  facts.identityViolations ++ facts.coordinatesViolations
    ++ (Facts.duplicates [] facts.attributeNames).map .duplicateAttribute
    ++ facts.intervalViolations

end TrajectoryFormat.Description

import TrajectoryFormat.Decimal.Double
import TrajectoryFormat.Decimal.Notation
import TrajectoryFormat.Description.Attribute
import TrajectoryFormat.Number
import TrajectoryFormat.Record.Error

/-!
# The values of one axis

A series holds the values of one axis over the points of a trajectory. Numbers are kept exactly, and
other values as they are written. Times that go backwards are raised to the time before. A series is
written as whole numbers: delta-coded, decimals scaled first, and what is left of places cut off.
-/

namespace TrajectoryFormat.Record

/-- The values of one axis, numbers being differences where they are delta-coded. -/
inductive Series where
  | numeric (values : List Decimal) (isDelta isDecimal : Bool)
  | text (values : List Text)
deriving DecidableEq

namespace Series

/-- Reads the number that an item shows. -/
def number (item : Text) : Except RecordError Decimal :=
  match Decimal.readNumber? item with
  | some d => .ok d
  | none => .error (.invalidNumber item)

def ofItems (declaredType : Text) (items : List Text) : Except RecordError Series :=
  if DeclaredType.isNumber declaredType then do
    let values ← items.mapM number
    pure (.numeric values (DeclaredType.isDelta declaredType) (DeclaredType.isDecimal declaredType))
  else .ok (.text items)

/-- Reads the instant that an item shows, in milliseconds since 1970. -/
def instant (pattern : DatePattern) (item : Text) : Except RecordError Decimal := do
  let millis ← (pattern.epochMillis item).mapError .invalidDate
  match Decimal.ofInt? millis with
  | some d => pure d
  | none => throw (.overflow item)

def ofDates (pattern : DatePattern) (items : List Text) : Except RecordError Series := do
  let values ← items.mapM (instant pattern)
  pure (.numeric values false false)

/-- A column that leaves its range, all values of it. -/
def overflowOf (values : List Decimal) : RecordError :=
  .overflow (Text.join "," (values.map Decimal.render))

/-- Each value that is smaller than the one before, raised to it. -/
def climb (previous : Decimal) : List Decimal → List Decimal
  | [] => []
  | v :: rest =>
    let v := if v.lt previous then previous else v
    v :: climb v rest

/-- The running maximum of a column. -/
def monotonic : List Decimal → List Decimal
  | [] => []
  | v :: rest => v :: climb v rest

/-- Absolute numbers that never go down. Other values stay as they are. -/
def repaired : Series → Except RecordError Series
  | numeric values false isDecimal => .ok (numeric (monotonic values) false isDecimal)
  | numeric values true isDecimal => do
    let absolute ← (Delta.checkedDecode Decimal.add? values).mapError overflowOf
    pure (numeric (monotonic absolute) false isDecimal)
  | text values => .ok (text values)

/-- A number scaled, or as it is, cut to a whole number of 64 bits. -/
def whole (scale? : Option Decimal) (v : Decimal) : Except RecordError Int := do
  let scaled ← match scale? with
    | none => pure v
    | some scale =>
      match v.mul? scale with
      | some scaled => pure scaled
      | none => throw (.overflow v.render)
  if Number.FitsInt64 scaled.toInt then pure scaled.toInt else throw (.overflow v.render)

def compressed (scale : Decimal) : Series → Except RecordError (List Text)
  | text values => .ok values
  | numeric values isDelta isDecimal => do
    let coded ←
      if isDelta then pure values
      else match Delta.encode? Decimal.sub? values with
        | some coded => pure coded
        | none => throw (overflowOf values)
    let written ← coded.mapM (whole (if isDecimal then some scale else none))
    pure (written.map Number.ofInt)

/-- The column that statistics are computed from. Values that are no numbers count as zero. -/
def column : Series → Statistics.Column Float
  | numeric values isDelta _ => ⟨values.map Decimal.toFloat, isDelta⟩
  | text values => ⟨values.map fun _ => 0, false⟩

end Series

end TrajectoryFormat.Record

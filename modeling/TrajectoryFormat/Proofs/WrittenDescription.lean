import TrajectoryFormat.Proofs.BondedPattern
import TrajectoryFormat.Proofs.FormatOfLines
import TrajectoryFormat.Proofs.Pieces

/-!
# Written descriptions

A description as a list of declarations, each part with what makes it well formed. It has a text,
one declaration a line, and it denotes a format: the attributes in their order, the fields of the
coordinates array, and for each setting the last value that is given.
-/

namespace TrajectoryFormat.Written

open Description Text

/-! ## Delimiters and types -/

/-- ASCII punctuation other than the low line. -/
def isPunctuation (c : Char) : Bool := '!' ≤ c && c ≤ '~' && !c.isAlphanum && c != '_'

/-- A delimiter: one character, or a word for it. -/
inductive Delimiter where
  | mark (c : Char) (punctuation : isPunctuation c = true)
  | lineBreak
  | lineSpace
  | endOfFile

namespace Delimiter

def text : Delimiter → Text
  | mark c _ => [c]
  | lineBreak => Keyword.lineBreak.name
  | lineSpace => Keyword.lineSpace.name
  | endOfFile => Keyword.endOfFile.name

/-- What the values of an attribute end at. -/
def meaning : Delimiter → Text
  | mark c _ => [c]
  | lineBreak => [lineBond]
  | lineSpace => [' ']
  | endOfFile => []

/-- How records are told apart. -/
def ofRecords : Delimiter → RecordDelimiter
  | mark c _ => .text [c]
  | lineBreak => .lineBreak
  | lineSpace => .text [' ']
  | endOfFile => .endOfFile

end Delimiter

/-- A date pattern that can be quoted. -/
structure QuotedPattern where
  text : Text
  compiles : (DatePattern.compile text).isOk = true
  plain : ∀ c ∈ ['"', '(', ')', '\n'], c ∉ text
  noBracket : text.head? ≠ some ']'

/-- The type of a value: a reserved word in whatever case, or a date with its pattern. -/
inductive ValueType where
  | basic (word : Text) (k : Keyword) (spelled : Keyword.lookupIgnoringCase? word = some k)
    (value : k.lexicalClass = .type ∨ k.lexicalClass = .deltaType)
  | date (pattern : QuotedPattern)

namespace ValueType

def text : ValueType → Text
  | basic word _ _ _ => word
  | date pattern => dateText pattern.text

def kind : ValueType → LexicalClass
  | basic _ k _ _ => k.lexicalClass
  | date _ => .dateType

end ValueType

/-! ## Attributes -/

/-- A name: an identifier that is not reserved, unless for the name of an attribute. -/
structure Name where
  text : Text
  identifier : isIdentifier text = true
  free : (Keyword.lookupIgnoringCase? text).all (·.lexicalClass == .attribute) = true

/-- An attribute inside an array, of a type that its name allows there. -/
structure Field where
  name : Name
  type : ValueType
  delimiter : Delimiter
  typed : type.kind ∈ arrayTypes name.text

/-- A field and the blank after it. -/
def Field.text (f : Field) : Text :=
  f.name.text ++ ' ' :: (f.type.text ++ ' ' :: (f.delimiter.text ++ [' ']))

/-- The type of an attribute. -/
inductive AttributeType where
  | value (type : ValueType)
  | array (fields : List Field) (nonempty : fields ≠ [])

namespace AttributeType

def text : AttributeType → Text
  | value type => type.text
  | array fields _ => arrayOpening ++ (fields.flatMap Field.text ++ [')'])

def kind : AttributeType → LexicalClass
  | value type => type.kind
  | array _ _ => .arrayType

end AttributeType

/-- A declared attribute, of a type that its name allows. -/
structure AttributeLine where
  name : Name
  type : AttributeType
  delimiter : Delimiter
  typed : type.kind ∈ attributeTypes name.text

/-! ## Settings -/

/-- Lines to be left out: one, or all from one to another. -/
inductive LineItem where
  | line (digits : Text) (spelled : Number.isDigits digits = true)
      (counted : 1 ≤ Number.value digits)
  | interval (first last : Text)
      (spelled : Number.isDigits first = true ∧ Number.isDigits last = true)
    (counted : 1 ≤ Number.value first) (ordered : Number.value first ≤ Number.value last)

namespace LineItem

def text : LineItem → Text
  | line digits _ _ => digits
  | interval first last _ _ _ => first ++ '-' :: last

/-- The lines themselves, unless their numbers are so large that no line has them. -/
def interval? : LineItem → Option LineInterval
  | line digits _ counted =>
    if Number.value digits < Number.limit64 then
      some ⟨Number.value digits, Number.value digits, counted, le_rfl⟩
    else none
  | interval first last _ counted ordered =>
    if Number.value last < Number.limit64 then
      some ⟨Number.value first, Number.value last, counted, ordered⟩
    else none

end LineItem

/-- A list of lines in brackets. -/
def listText (items : List LineItem) : Text := '[' :: (join "," (items.map LineItem.text) ++ [']'])

/-- A setting with a legal value. -/
inductive Setting where
  | coordinateSystem (word : Text) (system : CoordinateSystem)
    (spelled : CoordinateSystem.ofName? word = some system)
  | spatialDimensions (digit : Text) (legal : digit ∈ (["1", "2", "3"] : List Text))
  | ignoreLines (items : List LineItem) (nonempty : items ≠ [])
  | ignoreAttribute (delimiter : Delimiter)
  | autoId (stem : Text) (word : IsWord stem) (noMark : isMark stem = false)
    (free : Keyword.lookupIgnoringCase? stem = none)
  | recordsDelimiter (delimiter : Delimiter)
  | decimalPrecision (digits : Text) (spelled : Number.isDigits digits = true)
    (bound : Number.value digits ≤ maxPrecision)
  | outputShape (word : Text) (shape : OutputShape)
      (spelled : OutputShape.ofName? word = some shape)

namespace Setting

def keyword : Setting → Keyword
  | coordinateSystem _ _ _ => .coordinateSystem
  | spatialDimensions _ _ => .spatialDimensions
  | ignoreLines _ _ => .ignoreLines
  | ignoreAttribute _ => .ignoreAttribute
  | autoId _ _ _ _ => .autoId
  | recordsDelimiter _ => .recordsDelimiter
  | decimalPrecision _ _ _ => .decimalPrecision
  | outputShape _ _ _ => .outputFormat

def value : Setting → Text
  | coordinateSystem word _ _ => word
  | spatialDimensions digit _ => digit
  | ignoreLines items _ => listText items
  | ignoreAttribute delimiter => delimiter.text
  | autoId stem _ _ _ => stem
  | recordsDelimiter delimiter => delimiter.text
  | decimalPrecision digits _ _ => digits
  | outputShape word _ _ => word

end Setting

/-! ## Declarations -/

inductive Declaration where
  | declared (a : AttributeLine)
  | setting (s : Setting)

/-- A declaration on one line, one space between its parts. -/
def Declaration.text : Declaration → Text
  | .declared a => a.name.text ++ ' ' :: (a.type.text ++ ' ' :: a.delimiter.text)
  | .setting s => s.keyword.name ++ ' ' :: s.value

/-! ## Bonds

The text of a declaration with its date patterns bonded is that of a declaration, too.
-/

def QuotedPattern.bonded (p : QuotedPattern) : QuotedPattern where
  text := p.text.map Description.bonded
  compiles := DatePattern.isOk_compile_bonded p.compiles
  plain := by
    intro x mem here
    obtain ⟨c, inside, same⟩ := List.mem_map.mp here
    have noBond : ∀ x ∈ ['"', '(', ')', '\n'], x ≠ dateBond :=
      List.all_iff_forall_prop.mp (by decide)
    exact p.plain x mem (eq_of_bonded_eq same (noBond x mem) ▸ inside)
  noBracket := by
    intro first
    rw [List.head?_map, Option.map_eq_some_iff] at first
    obtain ⟨c, first, same⟩ := first
    exact p.noBracket (eq_of_bonded_eq same (by decide) ▸ first)

def ValueType.bonded : ValueType → ValueType
  | basic word k spelled value => basic word k spelled value
  | date pattern => date pattern.bonded

@[simp] theorem ValueType.kind_bonded (t : ValueType) : t.bonded.kind = t.kind := by cases t <;> rfl

def Field.bonded (f : Field) : Field where
  name := f.name
  type := f.type.bonded
  delimiter := f.delimiter
  typed := by simpa using f.typed

def AttributeType.bonded : AttributeType → AttributeType
  | value type => value type.bonded
  | array fields nonempty => array (fields.map Field.bonded) (by simpa using nonempty)

@[simp] theorem AttributeType.kind_bonded (t : AttributeType) : t.bonded.kind = t.kind := by
  cases t with
  | value type => exact type.kind_bonded
  | array => rfl

def AttributeLine.bonded (a : AttributeLine) : AttributeLine where
  name := a.name
  type := a.type.bonded
  delimiter := a.delimiter
  typed := by simpa using a.typed

def Declaration.bonded : Declaration → Declaration
  | .declared a => .declared a.bonded
  | .setting s => .setting s

/-! ## What a description denotes -/

/-- A field as a format keeps it. -/
def Field.attribute (f : Field) : Attribute :=
  ⟨f.name.text, f.type.bonded.text, f.delimiter.meaning⟩

namespace Declaration

/-- The attribute that a declaration adds, declared or left out. -/
def attribute? : Declaration → Option Attribute
  | .declared a => some ⟨a.name.text, a.type.bonded.text, a.delimiter.meaning⟩
  | .setting (.ignoreAttribute delimiter) =>
    some ⟨Attribute.ignoredName, Attribute.ignoredName, delimiter.meaning⟩
  | .setting _ => none

/-- The name of a declared attribute. -/
def name? : Declaration → Option Text
  | .declared a => some a.name.text
  | .setting _ => none

/-- The fields of a coordinates array. -/
def fields? : Declaration → Option (List Field)
  | .declared ⟨name, .array fields _, _, _⟩ =>
    if name.text = Keyword.coordinates.name then some fields else none
  | _ => none

/-- The format of a coordinates array. -/
def coordinates? : Declaration → Option ArrayFormat
  | .declared ⟨name, .array fields nonempty, _, _⟩ =>
    if name.text = Keyword.coordinates.name then
      some ⟨(AttributeType.array fields nonempty).bonded.text, fields.map Field.attribute⟩
    else none
  | _ => none

def coordinateSystemName? : Declaration → Option Text
  | .setting (.coordinateSystem word _ _) => some word
  | _ => none

def decimalPrecision? : Declaration → Option Nat
  | .setting (.decimalPrecision digits _ _) => some (Number.value digits)
  | _ => none

def outputShape? : Declaration → Option OutputShape
  | .setting (.outputShape _ shape _) => some shape
  | _ => none

def recordDelimiter? : Declaration → Option RecordDelimiter
  | .setting (.recordsDelimiter delimiter) => some delimiter.ofRecords
  | _ => none

def autoId? : Declaration → Option Text
  | .setting (.autoId stem _ _ _) => some stem
  | _ => none

def ignoredLines : Declaration → List LineInterval
  | .setting (.ignoreLines items _) => items.filterMap LineItem.interval?
  | _ => []

end Declaration

/-- Fields for both axes in space and for time. -/
structure HasAxes (fields : List Field) : Prop where
  x : ∃ f ∈ fields, f.name.text = Keyword.x.name ∨ f.name.text = Keyword.lon.name
  y : ∃ f ∈ fields, f.name.text = Keyword.y.name ∨ f.name.text = Keyword.lat.name
  time : ∃ f ∈ fields, f.name.text = Keyword.time.name

/-- Declarations that make a description: the names of attributes differ, an ID is declared just
where none is generated, and the coordinates have their axes. -/
structure Document where
  declarations : List Declaration
  names : (declarations.filterMap Declaration.name?).Pairwise fun a b =>
    a.sameIgnoringCase b = false
  identity : Keyword.id.name ∈ declarations.filterMap Declaration.name? ↔
    ∀ d ∈ declarations, d.autoId? = none
  coordinates : ∃ d ∈ declarations, ∃ fields, d.fields? = some fields ∧ HasAxes fields

namespace Document

/-- The text of a description, one declaration a line. -/
def text (d : Document) : Text := join "\n" (d.declarations.map Declaration.text)

/-- The format that a description denotes. -/
def format (d : Document) : DataFormat where
  attributes := d.declarations.filterMap Declaration.attribute?
  coordinates := d.declarations.findSome? Declaration.coordinates?
  coordinateSystemName :=
    (latest Declaration.coordinateSystemName? d.declarations).getD CoordinateSystem.cartesian.name
  decimalPrecision := (latest Declaration.decimalPrecision? d.declarations).getD 5
  outputShape := (latest Declaration.outputShape? d.declarations).getD .all
  recordDelimiter := (latest Declaration.recordDelimiter? d.declarations).getD .lineBreak
  autoIdPrefix := latest Declaration.autoId? d.declarations
  ignoredLines := d.declarations.flatMap Declaration.ignoredLines

end Document

end TrajectoryFormat.Written

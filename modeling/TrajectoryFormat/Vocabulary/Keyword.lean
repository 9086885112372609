import TrajectoryFormat.Text.Casing
import TrajectoryFormat.Vocabulary.LexicalClass

/-!
# Reserved words

The reserved words of a description, each with its spelling and its lexical class. A word is looked
up either as it is spelled or in whatever case.
-/

namespace TrajectoryFormat

/-- The reserved words. -/
inductive Keyword where
  -- attributes
  | id | coordinates | x | y | lon | lat | time
  -- commands
  | outputFormat | ignoreAttribute | ignoreLines | coordinateSystem | spatialDimensions | autoId
  | recordsDelimiter | decimalPrecision
  -- types
  | decimal | integer | string | boolean | char | datetime | array | deltaInteger | deltaDecimal
  -- delimiters
  | lineBreak | lineSpace | endOfFile
  -- coordinate systems
  | cartesian | geographic
  -- output shapes
  | all | spatial | spatialTemporal
  -- databases
  | localStore | mongoDb | hBase | voltDb
deriving DecidableEq, Repr

namespace Keyword

/-- Every reserved word, in the order in which they are looked up. -/
def every : List Keyword :=
  [id, coordinates, x, y, lon, lat, time,
   outputFormat, ignoreAttribute, ignoreLines, coordinateSystem, spatialDimensions, autoId,
   recordsDelimiter, decimalPrecision,
   decimal, integer, string, boolean, char, datetime, array, deltaInteger, deltaDecimal,
   lineBreak, lineSpace, endOfFile,
   cartesian, geographic,
   all, spatial, spatialTemporal,
   localStore, mongoDb, hBase, voltDb]

def name : Keyword → Text
  | id => "_ID"
  | coordinates => "_COORDINATES"
  | x => "_X"
  | y => "_Y"
  | lon => "_LON"
  | lat => "_LAT"
  | time => "_TIME"
  | outputFormat => "_OUTPUT_FORMAT"
  | ignoreAttribute => "_IGNORE_ATTR"
  | ignoreLines => "_IGNORE_LINES"
  | coordinateSystem => "_COORD_SYSTEM"
  | spatialDimensions => "_SPATIAL_DIM"
  | autoId => "_AUTO_ID"
  | recordsDelimiter => "_RECORDS_DELIM"
  | decimalPrecision => "_DECIMAL_PREC"
  | decimal => "DECIMAL"
  | integer => "INTEGER"
  | string => "STRING"
  | boolean => "BOOLEAN"
  | char => "CHAR"
  | datetime => "DATETIME"
  | array => "ARRAY"
  | deltaInteger => "DELTAINTEGER"
  | deltaDecimal => "DELTADECIMAL"
  | lineBreak => "LN"
  | lineSpace => "LS"
  | endOfFile => "EOF"
  | cartesian => "CARTESIAN"
  | geographic => "GEOGRAPHIC"
  | all => "ALL"
  | spatial => "SPATIAL"
  | spatialTemporal => "SPATIAL_TEMPORAL"
  | localStore => "LOCAL"
  | mongoDb => "MONGODB"
  | hBase => "HBASE"
  | voltDb => "VOLTDB"

/-- The class of the token that a reserved word makes. -/
def lexicalClass : Keyword → LexicalClass
  | id | coordinates | x | y | lon | lat | time => .attribute
  | outputFormat | ignoreAttribute | ignoreLines | coordinateSystem | spatialDimensions | autoId
  | recordsDelimiter | decimalPrecision => .command
  | decimal | integer | string | boolean | char => .type
  | datetime => .dateType
  | array => .arrayType
  | deltaInteger | deltaDecimal => .deltaType
  | lineBreak | lineSpace | endOfFile => .delimiter
  | cartesian | geographic => .coordinateSystem
  | all | spatial | spatialTemporal => .shape
  | localStore | mongoDb | hBase | voltDb => .database

/-- The reserved word with exactly this spelling. -/
def lookup? (word : Text) : Option Keyword := every.find? (·.name == word)

/-- The reserved word with this spelling in some case. -/
def lookupIgnoringCase? (word : Text) : Option Keyword :=
  every.find? (·.name.sameIgnoringCase word)

theorem mem_every (k : Keyword) : k ∈ every := by cases k <;> decide

theorem name_of_lookup? {word : Text} {k : Keyword} (h : lookup? word = some k) :
    k.name = word := by
  simpa using List.find?_some h

@[simp] theorem lookup?_name (k : Keyword) : lookup? k.name = some k := by cases k <;> decide

theorem name_injective : Function.Injective name := by
  intro k k' same
  have found := lookup?_name k
  rw [same, lookup?_name] at found
  exact (Option.some.inj found).symm

end Keyword

end TrajectoryFormat

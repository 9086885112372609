import TrajectoryFormat.Text.Casing

/-!
# The manual

The manual has an overview and five topics. A topic goes by several names, in whatever case, a
hyphen standing for a low line.
-/

namespace TrajectoryFormat.Command

/-- A topic of the manual. -/
inductive Topic where
  | attributes
  | types
  | commands
  | delimiters
  | output
deriving DecidableEq, Repr

namespace Topic

def names : Topic → List Text
  | attributes => ["attributes", "attribute", "attrs"]
  | types => ["types", "type"]
  | commands => ["commands", "command", "cmds"]
  | delimiters => ["delimiters", "delimiter", "delims"]
  | output => ["output", "outputs", "output_format"]

def every : List Topic := [attributes, types, commands, delimiters, output]

def ofName? (name : Text) : Option Topic :=
  let plain := Text.lower (name.map fun c => if c = '-' then '_' else c)
  every.find? (·.names.contains plain)

end Topic

/-- The overview of the manual, with the list of topics. -/
def overview : Text := "TDDF DOCUMENTATION

TDDF (Trajectory Data Description Format) describes how the records of a raw
trajectory dataset are laid out. The loader compiles a TDDF file, then reads
every input file, splits it into records and writes each record as
'id;x,y,t,...' with delta-compressed coordinates.

DOCUMENTATION TOPICS

  attributes        Declaring record fields, reserved names, the coordinates array
  types             Basic, delta, DATETIME and ARRAY types
  commands          Configuration directives (_OUTPUT_FORMAT, _AUTO_ID, ...)
  delimiters        Single characters and the LN, LS and EOF keywords
  output            Output shapes, compression and the generated files

QUICK REFERENCE

  # comment
  _ID             STRING                                        ;
  _COORDINATES    ARRAY(_X DECIMAL , _Y DECIMAL , _TIME INTEGER ,) ;
  _OUTPUT_FORMAT  SPATIAL_TEMPORAL

Run 'tddf doc <topic>' for detailed documentation.
Run 'tddf check <file>' to validate a description.
"

def attributesPage : Text := "ATTRIBUTES - Declaring Record Fields

SYNTAX
  NAME    TYPE    DELIMITER
    One attribute per line, in the order the fields appear in a record.
    Each attribute consumes the record text up to its delimiter.

    Example:
      _ID             STRING      ;
      _COORDINATES    ARRAY(_X DECIMAL , _Y DECIMAL , _TIME INTEGER ,)    ;
      VEHICLE         STRING      EOF

      Record:  t1;0,1,10,2,3,20;bus
      Values:  _ID = t1, _COORDINATES = 0,1,10,2,3,20, VEHICLE = bus

RESERVED NAMES
  _ID             Trajectory identifier, must have a basic type
  _COORDINATES    The points of the trajectory, must be an ARRAY
  _X, _LON        First spatial axis (inside _COORDINATES)
  _Y, _LAT        Second spatial axis (inside _COORDINATES)
  _TIME           Time stamp (inside _COORDINATES)

  Every description declares _COORDINATES with _X/_LON, _Y/_LAT and _TIME,
  and exactly one of _ID or the _AUTO_ID command.

USER ATTRIBUTES
  Any other name made of letters, digits and underscores, not starting with a
  digit. Names must be unique, ignoring case.

    Example:
      SPEED           DECIMAL     ,
      TAGS            ARRAY(TAG STRING |)    ;
"

def typesPage : Text := "TYPES - Attribute Types

BASIC TYPES
  DECIMAL         Decimal number
  INTEGER         Whole number
  STRING          Text
  BOOLEAN         true / false
  CHAR            Single character

DELTA TYPES
  DELTADECIMAL    Decimal values already delta-encoded
  DELTAINTEGER    Integer values already delta-encoded

    Delta encoding keeps the first value and then the successive
    differences:  10,20,35  ->  10,10,15

    Only _X, _Y, _LON, _LAT and _TIME may use delta types.

DATETIME
  DATETIME[\"pattern\"]
    A date/time text converted to epoch milliseconds (UTC when the pattern
    has no zone).

    Example:
      _TIME    DATETIME[\"M/d/yyyy h:mm:ss a\"]    ,
      3/2/2009 10:04:44 AM  ->  1235988284000

    Pattern letters:
      yyyy yy     year            M MM MMM    month
      d           day of month    D           day of year
      H k         hour (0-23)     h K         hour (1-12)
      m           minute          s           second
      S           fraction        a           AM/PM
      E           day name        Z X         zone offset
      'text'      literal text

ARRAY
  ARRAY(NAME TYPE DELIMITER ...)
    A repeating group of inner attributes. Items are read cyclically, one
    inner attribute per item, until the attribute's text is consumed.

    Example:
      ARRAY(_X DECIMAL , _Y DECIMAL , _TIME INTEGER ,)
      0,1,10,2,3,20  ->  (0,1,10) (2,3,20)

    Inner attributes cannot be arrays.
"

def commandsPage : Text := "COMMANDS - Configuration Directives

SYNTAX
  _COMMAND    VALUE

_OUTPUT_FORMAT    ALL | SPATIAL | SPATIAL_TEMPORAL
    Shape of the output records (default ALL). See 'tddf doc output'.

_COORD_SYSTEM     CARTESIAN | GEOGRAPHIC
    Selects the distance used for statistics: Euclidean for CARTESIAN,
    great-circle kilometres on (lon, lat) degrees for GEOGRAPHIC.

_DECIMAL_PREC     n
    Decimal values are multiplied by 10^n and truncated (default 5, max 28).

_SPATIAL_DIM      1 | 2 | 3
    Declared number of spatial dimensions.

_AUTO_ID          prefix
    Generate trajectory IDs instead of reading _ID.
      _AUTO_ID  100    ->  100, 101, 102, ...
      _AUTO_ID  traj   ->  traj_1, traj_2, ...

_RECORDS_DELIM    LN | EOF | text
    How records are separated in the input files:
      LN      one record per line (default)
      EOF     one record per file
      text    a record starts at every line beginning with text

_IGNORE_LINES     [n,a-b,...]
    Physical lines dropped from every input file (1-based).
      _IGNORE_LINES  [1,4-5]

_IGNORE_ATTR      DELIMITER
    A field, up to DELIMITER, that is skipped. Place it among the
    attributes at the position of the field.
"

def delimitersPage : Text := "DELIMITERS - Field Separators

SINGLE CHARACTERS
  Any single character other than a letter, digit or underscore:
    ;  ,  |  :  /  -  #  ...

KEYWORDS
  LN      Line break. Multi-line records are joined before splitting, so an
          attribute may end at the end of a physical line.
  LS      A single space.
  EOF     End of record. The attribute takes the rest of the record.

  Example:
    _ID             STRING    LN
    _COORDINATES    ARRAY(_X DECIMAL LS _Y DECIMAL LS _TIME INTEGER LN)    EOF
    _RECORDS_DELIM  #

    Input:
      #t1
      0 1 10
      2 3 20
"

def outputPage : Text := "OUTPUT - Records and Generated Files

RECORDS
  id;coordinates[;attributes]

  SPATIAL            x,y per point
  SPATIAL_TEMPORAL   x,y,t per point
  ALL                x,y,t and the other coordinate attributes per point,
                     then every other attribute, ';' separated. Array
                     attributes are flattened with ','.

COMPRESSION
  _X, _Y and _TIME are delta-encoded. Decimal values are then scaled by
  10^_DECIMAL_PREC and truncated; integer values are truncated.

    Example (_DECIMAL_PREC 0):
      t1;0,1,10,2,3,20,4,5,30  ->  t1;0,1,10,2,2,10,2,2,10

  Time stamps that go backwards are clamped to the previous value.
  A record that cannot be parsed is dropped and logged.

GENERATED FILES
  data_file_NNNNN.csv    Records of input file number NNNNN
  output-format.tddf     TDDF-style description of the records
  metadata.meta          File and attribute counts, then dataset statistics:

    NUM_TRAJECTORIES, NUM_POINTS
    MIN/MAX/AVG/STD of points per trajectory, trajectory length, duration,
    speed and sampling rate
    MIN_X, MIN_Y, MIN_T, MAX_X, MAX_Y, MAX_T
"

def Topic.page : Topic → Text
  | attributes => attributesPage
  | types => typesPage
  | commands => commandsPage
  | delimiters => delimitersPage
  | output => outputPage

end TrajectoryFormat.Command

import TrajectoryFormat.Text
import TrajectoryFormat.Text.Alphabetic
import TrajectoryFormat.Text.Mark
import TrajectoryFormat.Text.Numeral

/-!
# Word characters

Two classes of characters that names may hold. The alphanumeric characters are letters and numerals.
The word characters are letters, marks, decimal digits, connectors such as `_`, and the two joiners.
-/

namespace TrajectoryFormat.Text

def isAlphanumeric (c : Char) : Bool := isAlphabetic c || isNumeral c

/-- Connector punctuation: the low line and its relatives. -/
def isConnector (c : Char) : Bool :=
  c == '_' || c == '\u203f' || c == '\u2040' || c == '\u2054'
    || inRanges [(0xfe33, 0xfe34), (0xfe4d, 0xfe4f), (0xff3f, 0xff3f)] c

/-- The zero-width joiner and non-joiner. -/
def isJoiner (c : Char) : Bool := c == '\u200c' || c == '\u200d'

def isWord (c : Char) : Bool :=
  isAlphabetic c || isMark c || isDecimalDigit c || isConnector c || isJoiner c

/-- An ASCII letter, or the low line. -/
def opensIdentifier (c : Char) : Bool := c.isAlpha || c == '_'

/-- An ASCII letter, an ASCII digit, or the low line. -/
def continuesIdentifier (c : Char) : Bool := c.isAlphanum || c == '_'

/-- ASCII letters, digits and low lines, the first no digit. -/
def isIdentifier : Text → Bool
  | [] => false
  | c :: rest => opensIdentifier c && rest.all continuesIdentifier

end TrajectoryFormat.Text

import TrajectoryFormat.Text

/-!
# Lexical classes

Every token of a description has one class. A class is shown by a symbol of its own.
-/

namespace TrajectoryFormat

/-- The kinds of word that a description is made of. -/
inductive LexicalClass where
  | comment
  | attribute
  | command
  | delimiter
  | type
  | arrayType
  | dateType
  | deltaType
  | shape
  | coordinateSystem
  | database
  | endOfLine
  | text
deriving DecidableEq, Repr

namespace LexicalClass

def symbol : LexicalClass → Text
  | .comment => "$cmnt"
  | .attribute => "$attr"
  | .command => "$cmd"
  | .delimiter => "$dlim"
  | .type => "$type"
  | .arrayType => "$array"
  | .dateType => "$dtype"
  | .deltaType => "$etype"
  | .shape => "$frmt"
  | .coordinateSystem => "$csys"
  | .database => "$db"
  | .endOfLine => "$end"
  | .text => "$str"

end LexicalClass

end TrajectoryFormat

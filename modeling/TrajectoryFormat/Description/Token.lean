import TrajectoryFormat.Description.LogicalLine
import TrajectoryFormat.Text.Cut
import TrajectoryFormat.Text.WordChar
import TrajectoryFormat.Vocabulary.Keyword

/-!
# Tokens

A logical line is cut into pieces at its blanks. An array declaration up to its closing parenthesis
is one piece, and so is a date declaration up to the closing mark of its pattern. Each piece becomes
a token of one lexical class, and every line ends with a token of its own.
-/

namespace TrajectoryFormat.Description

open Text

/-- A piece of a description with its lexical class. -/
structure Token where
  value : Text
  kind : LexicalClass
deriving DecidableEq

namespace Token

def endOfLine : Token := ⟨"end", .endOfLine⟩

def isKind (token : Token) (kind : LexicalClass) : Bool := token.kind == kind

def render (token : Token) : Text := token.value ++ token.kind.symbol

end Token

def patternClosing : Text := "\"]"

/-- The word that `c` opens, and what follows it. -/
def firstWord (c : Char) (rest : Text) : Text × Text :=
  (c :: rest.takeWhile (!isBlank ·), rest.dropWhile (!isBlank ·))

/-- The piece that `c` opens, and what follows it. What is never closed goes on to the end when it
is an array, and to the next blank when it is a date pattern. -/
def firstPiece (c : Char) (rest : Text) : Text × Text :=
  let line := c :: rest
  if opensWith arrayOpening line then
    match arrayInside? (line.drop arrayOpening.length) with
    | some (inside, after) => (line.take arrayOpening.length ++ inside ++ [')'], after)
    | none => (line, [])
  else if opensWith dateOpening line then
    match cut? patternClosing line with
    | some (before, after) => (before ++ patternClosing, after)
    | none => firstWord c rest
  else firstWord c rest

theorem firstPiece_length (c : Char) (rest : Text) :
    (firstPiece c rest).2.length ≤ rest.length := by
  have word : (firstWord c rest).2.length ≤ rest.length := (List.dropWhile_sublist _).length_le
  simp only [firstPiece]
  split
  · split
    · next inside after found =>
      have := Nesting.close?_length found
      simp only [List.length_drop, List.length_cons] at this
      simp only
      omega
    · simp
  · split
    · split
      · next before after found =>
        have := length_lt_of_cut? found (by decide)
        simp only [List.length_cons] at this
        simp only
        omega
      · exact word
    · exact word

def pieces (line : Text) : List Text :=
  match _h : trimStart line with
  | [] => []
  | c :: rest => (firstPiece c rest).1 :: pieces (firstPiece c rest).2
termination_by line.length
decreasing_by
  have shorter := firstPiece_length c rest
  have := trimStart_length_le line
  rw [_h, List.length_cons] at this
  omega

/-- One character that is neither a letter or numeral nor the low line. -/
def isMark : Text → Bool
  | [c] => !(isAlphanumeric c || c == '_')
  | _ => false

/-- The lexical class of a piece. A word that is not reserved names an attribute where it is
first. -/
def classOf (value : Text) (first : Bool) : LexicalClass :=
  if opensWith arrayOpening value then .arrayType
  else if opensWith dateOpening value then .dateType
  else if isMark value then .delimiter
  else match Keyword.lookupIgnoringCase? value with
    | some keyword => keyword.lexicalClass
    | none => if first then .attribute else .text

def classify (value : Text) (first : Bool) : Token := ⟨value, classOf value first⟩

/-- The tokens of a logical line, the first piece in the first place, and the token that closes
it. -/
def lineTokens (line : Text) : List Token :=
  match pieces line with
  | [] => [Token.endOfLine]
  | first :: rest => classify first true :: rest.map (classify · false) ++ [Token.endOfLine]

/-- The tokens of a description. There are none for a description without a logical line. -/
def tokens? (lines : List Text) : Option (List Token) :=
  match logicalLines lines with
  | [] => none
  | logical => some (logical.flatMap lineTokens)

/-- The declarations of a description, each the tokens of one logical line. -/
def declarationLines (tokens : List Token) : List (List Token) :=
  (tokens.splitOnP (·.isKind .endOfLine)).filter (!·.isEmpty)

def dropClosing (s : Text) : Text := if s.getLast? = some ')' then s.dropLast else s

def arrayBody (declaration : Text) : Text :=
  let trimmed := trim declaration
  let inner :=
    if opensWith arrayOpening trimmed then trimmed.drop arrayOpening.length else trimmed
  trim (dropClosing inner)

/-- The tokens inside an array declaration. Every third piece is in the first place of a triple. -/
def arrayTokens (declaration : Text) : List Token :=
  (pieces (arrayBody declaration)).mapIdx fun i piece => classify piece (i % 3 == 0)

end TrajectoryFormat.Description

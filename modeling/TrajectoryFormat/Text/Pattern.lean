import TrajectoryFormat.Text.Blank
import TrajectoryFormat.Text.Casing
import TrajectoryFormat.Text.WordChar

/-!
# Patterns of text

A pattern is built from classes of characters by sequence, choice and repetition. Whether it
describes a whole text is decided by reading the text once: after each character a list of patterns
remains, one of which must describe the rest.
-/

namespace TrajectoryFormat

/-- The classes of characters that patterns are built from. -/
inductive CharClass where
  | exactly (c : Char)
  | letter (c : Char)
  | blank
  | word
  | nonWord
  | inLine
deriving DecidableEq

namespace CharClass

/-- The same letter in some case. The long `ſ` is an `s`, and the Kelvin sign is a `k`. -/
def sameLetter (a b : Char) : Bool :=
  a.toLower == b.toLower || (a.toLower == 's' && b == '\u017f')
    || (a.toLower == 'k' && b == '\u212a')

/-- Whether a character belongs to a class. A line feed alone is not `inLine`. -/
def holds : CharClass → Char → Bool
  | exactly a, c => a == c
  | letter a, c => sameLetter a c
  | blank, c => Text.isBlank c
  | word, c => Text.isWord c
  | nonWord, c => !Text.isWord c
  | inLine, c => c != '\n'

end CharClass

/-- A description of texts. -/
inductive Pattern where
  | empty
  | one (k : CharClass)
  | seq (p q : Pattern)
  | either (p q : Pattern)
  | many (p : Pattern)
deriving DecidableEq

namespace Pattern

def some (p : Pattern) : Pattern := seq p (many p)

def all : List Pattern → Pattern
  | [] => empty
  | [p] => p
  | p :: rest => seq p (all rest)

/-- The text, its letters in whatever case. -/
def spelled (s : Text) : Pattern := all (s.map fun c => one (.letter c))

def nullable : Pattern → Bool
  | empty => true
  | one _ => false
  | seq p q => p.nullable && q.nullable
  | either p q => p.nullable || q.nullable
  | many _ => true

/-- The patterns of which one describes what follows `c`. -/
def step (c : Char) : Pattern → List Pattern
  | empty => []
  | one k => if k.holds c then [empty] else []
  | seq p q =>
    let first := (step c p).map fun p => if p = empty then q else seq p q
    if p.nullable then first ++ step c q else first
  | either p q => step c p ++ step c q
  | many p => (step c p).map fun p' => if p' = empty then many p else seq p' (many p)

def anyMatches : List Pattern → Text → Bool
  | ps, [] => ps.any nullable
  | ps, c :: rest => anyMatches (ps.flatMap (step c)).eraseDups rest

def covers (p : Pattern) (s : Text) : Bool := anyMatches [p] s

end Pattern

end TrajectoryFormat

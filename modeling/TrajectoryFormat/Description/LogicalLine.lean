import TrajectoryFormat.Text.Blank
import TrajectoryFormat.Text.Casing
import TrajectoryFormat.Vocabulary.DeclaredType

/-!
# Logical lines

The physical lines of a description become logical lines: blank lines and comments are left out, the
blanks inside date patterns are bonded, an array declaration that is still open takes in the lines
that follow, and words are parted by one space.
-/

namespace TrajectoryFormat.Description

open Text

def commentMark : Char := '#'

/-- A line of blanks only, or a comment. -/
def isSkippable (line : Text) : Bool :=
  match trim line with
  | [] => true
  | c :: _ => c == commentMark

/-- A quoted pattern up to its closing mark `"]` on the same line, and what follows the mark. -/
def patternBody? : Text → Option (Text × Text)
  | [] => none
  | c :: rest =>
    if c = '"' && rest.head? = some ']' then some ([], rest.tail)
    else if c = '\n' then none
    else (patternBody? rest).map fun (body, after) => (c :: body, after)

theorem patternBody?_length {s body after : Text} (h : patternBody? s = some (body, after)) :
    after.length < s.length := by
  induction s generalizing body with
  | nil => simp [patternBody?] at h
  | cons c rest ih =>
    simp only [patternBody?] at h
    split at h
    · cases h
      simp only [List.length_tail, List.length_cons]
      omega
    · split at h
      · simp at h
      · simp only [Option.map_eq_some_iff, Prod.mk.injEq, Prod.exists] at h
        obtain ⟨b, a, hb, rfl, rfl⟩ := h
        have := ih hb
        simp only [List.length_cons]
        omega

/-- The opening of a date pattern, quote included. -/
def patternOpening : Text := dateOpening ++ ['"']

/-- The quoted pattern that a text opens with, and what follows its closing mark. -/
def openedPattern? (s : Text) : Option (Text × Text) :=
  if opensWith patternOpening s then patternBody? (s.drop patternOpening.length) else none

theorem openedPattern?_length {s body after : Text} (h : openedPattern? s = some (body, after)) :
    after.length < s.length := by
  simp only [openedPattern?] at h
  split at h
  · have := patternBody?_length h
    simp only [List.length_drop] at this
    omega
  · simp at h

/-- A blank as a date bond, and any other character as it is. -/
def bonded (c : Char) : Char := if isBlank c then dateBond else c

/-- Bonds the blanks inside the date patterns of a line, from the left. -/
def bondPatterns (s : Text) : Text :=
  match s with
  | [] => []
  | c :: rest =>
    match _found : openedPattern? (c :: rest) with
    | some (body, after) =>
      (c :: rest).take dateOpening.length ++ '"' :: body.map bonded
        ++ '"' :: ']' :: bondPatterns after
    | none => c :: bondPatterns rest
termination_by s.length
decreasing_by
  · exact openedPattern?_length _found
  · simp

def endsWord : Text → Bool
  | [] => true
  | c :: _ => isBlank c

/-- A place inside an array declaration: the parentheses opened there and not closed, the words
completed outside of them, and whether a word has begun. -/
structure Nesting where
  depth : Nat := 0
  slot : Nat := 0
  inWord : Bool := false

/-- A parenthesis that stands alone in the delimiter place of a triple is a delimiter. -/
def Nesting.isDelimiter (n : Nesting) (c : Char) (rest : Text) : Bool :=
  !n.inWord && n.depth == 0 && n.slot % 3 == 2 && (c == '(' || c == ')') && endsWord rest

/-- The place after `c`, which `rest` follows. There is none after the parenthesis that closes the
array. -/
def Nesting.next? (n : Nesting) (c : Char) (rest : Text) : Option Nesting :=
  if isBlank c then
    some { n with slot := if n.inWord && n.depth == 0 then n.slot + 1 else n.slot, inWord := false }
  else if n.isDelimiter c rest then some { n with slot := n.slot + 1 }
  else if c = '(' then some { n with depth := n.depth + 1, inWord := true }
  else if c = ')' then
    match n.depth with
    | 0 => none
    | depth + 1 => some { n with depth, inWord := true }
  else some { n with inWord := true }

/-- The rest of an array declaration up to the parenthesis that closes it, and what follows. -/
def Nesting.close? (n : Nesting) : Text → Option (Text × Text)
  | [] => none
  | c :: rest =>
    match n.next? c rest with
    | none => some ([], rest)
    | some n => (n.close? rest).map fun (inside, after) => (c :: inside, after)

/-- The inside of an array declaration that has just been opened, and what follows it. -/
def arrayInside? (s : Text) : Option (Text × Text) := ({} : Nesting).close? s

theorem Nesting.close?_length {n : Nesting} {s inside after : Text}
    (h : n.close? s = some (inside, after)) : after.length < s.length := by
  induction s generalizing n inside with
  | nil => simp [Nesting.close?] at h
  | cons c rest ih =>
    simp only [Nesting.close?] at h
    split at h
    · cases h
      simp
    · simp only [Option.map_eq_some_iff, Prod.mk.injEq, Prod.exists] at h
      obtain ⟨i, a, found, _, rfl⟩ := h
      have := ih found
      simp only [List.length_cons]
      omega

/-- Whether the first array declaration of a line is not closed yet. -/
def isOpenArray (line : Text) : Bool :=
  match afterIgnoringCase? arrayOpening line with
  | some inside => (arrayInside? inside).isNone
  | none => false

/-- The logical lines of physical lines, after the begun line `pending` whose array is open. -/
def gather : Option Text → List Text → List Text
  | none, [] => []
  | some pending, [] => [squeeze pending]
  | pending, line :: rest =>
    if isSkippable line then gather pending rest
    else
      let line := bondPatterns (trim line)
      let logical := match pending with
        | none => line
        | some begun => begun ++ ' ' :: line
      if isOpenArray logical then gather (some logical) rest
      else squeeze logical :: gather none rest

def logicalLines (lines : List Text) : List Text := gather none lines

end TrajectoryFormat.Description

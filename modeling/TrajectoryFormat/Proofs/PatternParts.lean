import Mathlib.Data.List.Basic
import Mathlib.Data.List.TakeWhile
import TrajectoryFormat.Date.Pattern

/-!
# Parts of date patterns

A date pattern is made of parts: the longest runs of one letter, quoted texts, doubled quotes, and
other single characters. From the left a pattern is cut into parts in one way only, up to its end or
up to a quote that is never closed. Each part is read on its own, so what is read of a pattern is
what is read of its parts.
-/

namespace TrajectoryFormat.DatePattern

/-! ## Parts -/

/-- The letters that stand for fields. -/
def fieldLetters : Text := "yuMdDEaHkhKmsSZXx"

/-- A part of a date pattern. -/
inductive Part where
  | run (letter : Char) (more : Nat)
  | quote
  | quoted (inside : Text)
  | other (c : Char)

/-- The letter that a part is a run of. -/
def Part.letter? : Part → Option Char
  | run c _ => some c
  | _ => none

/-- The letters that stand for something, one for each run. -/
def letters (parts : List Part) : List Char := parts.filterMap Part.letter?

/-- A text as it is written between quotes: every quote in it is doubled. -/
def doubled (s : Text) : Text := s.flatMap fun c => if c = '\'' then ['\'', '\''] else [c]

/-- The text `s` starts with a part, which ends where `rest` begins: a run before another character,
and a quoted text at the first quote that is not doubled. -/
inductive Starts : Text → Part → Text → Prop
  | run {c : Char} {more : Nat} {rest : Text} (letter : c.isAlpha = true)
      (ends : rest.head? ≠ some c) :
      Starts (c :: (List.replicate more c ++ rest)) (.run c more) rest
  | quote {rest : Text} : Starts ('\'' :: '\'' :: rest) .quote rest
  | quoted {c : Char} {inside rest : Text} (opens : c ≠ '\'') (ends : rest.head? ≠ some '\'') :
      Starts ('\'' :: (doubled (c :: inside) ++ '\'' :: rest)) (.quoted (c :: inside)) rest
  | other {c : Char} {rest : Text} (noLetter : c.isAlpha = false) (noQuote : c ≠ '\'') :
      Starts (c :: rest) (.other c) rest

/-- A text starts with these parts, one after the other, and `rest` follows. -/
inductive Spells : Text → List Part → Text → Prop
  | nothing {s : Text} : Spells s [] s
  | part {s t rest : Text} {p : Part} {parts : List Part} (first : Starts s p t)
      (others : Spells t parts rest) :
      Spells s (p :: parts) rest

/-- What is wrong where a text starts: a letter that stands for nothing, or a quote that is never
closed. -/
inductive Offends : Text → DatePatternError → Prop
  | letter {c : Char} {rest : Text} (letter : c.isAlpha = true) (unknown : c ∉ fieldLetters) :
      Offends (c :: rest) (.unsupportedLetter c)
  | openQuote {inside : Text} (opens : inside.head? ≠ some '\'') :
      Offends ('\'' :: doubled inside) .unterminatedQuote

/-! ## One way to cut a pattern -/

variable {s t rest inside : Text} {c : Char} {p q : Part} {parts qs : List Part}
  {e : DatePatternError}

@[simp] theorem doubled_nil : doubled [] = [] := rfl

theorem doubled_cons (c : Char) (s : Text) :
    doubled (c :: s) = (if c = '\'' then ['\'', '\''] else [c]) ++ doubled s := rfl

@[simp] theorem doubled_quote (s : Text) : doubled ('\'' :: s) = '\'' :: '\'' :: doubled s := rfl

theorem doubled_other (other : c ≠ '\'') (s : Text) : doubled (c :: s) = c :: doubled s := by
  rw [doubled_cons, if_neg other, List.singleton_append]

/-- The text up to the first quote that is not doubled, and what follows that quote. -/
def closing? : Text → Option (Text × Text)
  | [] => none
  | '\'' :: '\'' :: rest => (closing? rest).map fun (inside, after) => ('\'' :: inside, after)
  | '\'' :: rest => some ([], rest)
  | c :: rest => (closing? rest).map fun (inside, after) => (c :: inside, after)

theorem closing?_quote (ends : rest.head? ≠ some '\'') :
    closing? ('\'' :: rest) = some ([], rest) := by
  cases rest with
  | nil => rfl
  | cons c rest =>
    rw [List.head?_cons, ne_eq, Option.some.injEq] at ends
    rw [closing?]
    exact fun _ first => ends (List.cons.inj first).1

theorem closing?_other (other : c ≠ '\'') (rest : Text) :
    closing? (c :: rest) = (closing? rest).map fun (inside, after) => (c :: inside, after) := by
  rw [closing?]
  · exact fun _ first => absurd first other
  · exact other

/-- What is written between quotes is found again. -/
theorem closing?_doubled_append (inside : Text) (ends : rest.head? ≠ some '\'') :
    closing? (doubled inside ++ '\'' :: rest) = some (inside, rest) := by
  induction inside with
  | nil => exact closing?_quote ends
  | cons c inside ih =>
    by_cases quote : c = '\''
    · subst quote
      rw [doubled_quote, List.cons_append, List.cons_append, closing?, ih]
      rfl
    · rw [doubled_other quote, List.cons_append, closing?_other quote, ih]
      rfl

theorem takeWhile_run (more : Nat) (ends : rest.head? ≠ some c) :
    (List.replicate more c ++ rest).takeWhile (· == c) = List.replicate more c
      ∧ (List.replicate more c ++ rest).dropWhile (· == c) = rest := by
  have same : ∀ d ∈ List.replicate more c, (d == c) = true := by
    intro d mem
    rw [beq_iff_eq, List.eq_of_mem_replicate mem]
  have stop : rest.takeWhile (· == c) = [] ∧ rest.dropWhile (· == c) = rest := by
    cases rest with
    | nil => exact ⟨rfl, rfl⟩
    | cons d rest =>
      have other : ¬ (d == c) = true := by simpa using ends
      exact ⟨List.takeWhile_cons_of_neg other, List.dropWhile_cons_of_neg other⟩
  rw [List.takeWhile_append_of_pos same, List.dropWhile_append_of_pos same, stop.1, stop.2,
    List.append_nil]
  exact ⟨rfl, rfl⟩

/-- The part that a text starts with, and what follows it. -/
def firstPart? : Text → Option (Part × Text)
  | [] => none
  | c :: s =>
    if c = '\'' then
      if s.head? = some '\'' then some (.quote, s.tail)
      else (closing? s).map fun (inside, rest) => (.quoted inside, rest)
    else if c.isAlpha then some (.run c (s.takeWhile (· == c)).length, s.dropWhile (· == c))
    else some (.other c, s)

theorem Starts.firstPart?_eq (h : Starts s p rest) : firstPart? s = some (p, rest) := by
  cases h with
  | @run c more rest letter ends =>
    have noQuote : c ≠ '\'' := by
      rintro rfl
      cases letter
    obtain ⟨taken, dropped⟩ := takeWhile_run more ends
    rw [firstPart?, if_neg noQuote, if_pos letter, taken, dropped, List.length_replicate]
  | quote => rfl
  | @quoted c inside rest opens ends =>
    have single : (doubled (c :: inside) ++ '\'' :: rest).head? ≠ some '\'' := by
      rw [doubled_other opens, List.cons_append, List.head?_cons, ne_eq, Option.some.injEq]
      exact opens
    rw [firstPart?, if_pos rfl, if_neg single, closing?_doubled_append _ ends]
    rfl
  | other noLetter noQuote =>
    rw [firstPart?, if_neg noQuote, noLetter, if_neg Bool.false_ne_true]

/-- A text starts with one part at most. -/
theorem Starts.unique (h : Starts s p t) (h' : Starts s q rest) : p = q ∧ t = rest := by
  have same := h.firstPart?_eq.symm.trans h'.firstPart?_eq
  rwa [Option.some.injEq, Prod.mk.injEq] at same

theorem Starts.suffix (h : Starts s p rest) : rest <:+ s := by
  cases h with
  | run => exact (List.suffix_append _ _).trans (List.suffix_cons _ _)
  | quote => exact (List.suffix_cons _ _).trans (List.suffix_cons _ _)
  | quoted =>
    exact (List.suffix_cons _ _).trans ((List.suffix_append _ _).trans (List.suffix_cons _ _))
  | other => exact List.suffix_cons _ _

theorem Spells.suffix (h : Spells s parts rest) : rest <:+ s := by
  induction h with
  | nothing => exact List.suffix_rfl
  | part first _ ih => exact ih.trans first.suffix

theorem Spells.nil (h : Spells [] parts rest) : parts = [] ∧ rest = [] := by
  cases h with
  | nothing => exact ⟨rfl, rfl⟩
  | part first => cases first

/-! ## Where a pattern goes wrong -/

/-- Every letter that the parts are runs of stands for a field. -/
def Legal (parts : List Part) : Prop := ∀ c ∈ letters parts, c ∈ fieldLetters

@[simp] theorem letters_append (parts qs : List Part) :
    letters (parts ++ qs) = letters parts ++ letters qs :=
  List.filterMap_append

theorem Legal.right (h : Legal (parts ++ qs)) : Legal qs := fun c mem =>
  h c (by rw [letters_append]; exact List.mem_append_right _ mem)

theorem Offends.nonempty (h : Offends s e) : s ≠ [] := by cases h <;> exact List.cons_ne_nil _ _

/-- What is wrong is said in one way. -/
theorem Offends.unique {e' : DatePatternError} (h : Offends s e) (h' : Offends s e') : e = e' := by
  cases h with
  | letter letter =>
    cases h' with
    | letter => rfl
    | openQuote => cases letter
  | @openQuote inside =>
    generalize text : '\'' :: doubled inside = s at h'
    cases h' with
    | letter letter =>
      cases text
      cases letter
    | openQuote => rfl

end TrajectoryFormat.DatePattern

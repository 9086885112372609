import TrajectoryFormat.Proofs.Checked
import TrajectoryFormat.Proofs.PatternParts

/-!
# What a date pattern is translated into

The items of a pattern are those of its parts: a field for a run of letters, and a literal character
for every other character. The compiled form is read back item by item, so no literal character is
taken for a conversion. A pattern is refused at the first place where a letter stands for nothing or
a quote is never closed.
-/

namespace TrajectoryFormat

open Checked Text

/-! ## Letters and their fields -/

namespace DateField

/-- Whether a letter stands for a field does not depend on the length of its run. -/
theorem isSome_ofLetter? (c : Char) (run : Nat) :
    (ofLetter? c run).isSome = (ofLetter? c 1).isSome := by
  unfold ofLetter?
  split <;> rfl

theorem exists_ofLetter? {c : Char} (known : c ∈ DatePattern.fieldLetters) (run : Nat) :
    ∃ f, ofLetter? c run = some f := by
  have every : (DatePattern.fieldLetters.all fun c => (ofLetter? c 1).isSome) = true := by decide
  rw [← Option.isSome_iff_exists, isSome_ofLetter?]
  exact List.all_eq_true.mp every c known

end DateField

namespace DatePattern

/-! ## The items of parts -/

variable {s rest : Text} {c : Char} {parts : List Part} {e : DatePatternError}
  {items : List DateItem}

/-- The items of parts: one field for a run, the one of its letter and length, and every other
character as a literal in its place. -/
inductive Reads : List Part → List DateItem → Prop
  | nothing : Reads [] []
  | run {c : Char} {more : Nat} {f : DateField} {parts : List Part} {items : List DateItem}
      (stands : DateField.ofLetter? c (1 + more) = some f) (others : Reads parts items) :
      Reads (.run c more :: parts) (.field f :: items)
  | quote {parts : List Part} {items : List DateItem} (others : Reads parts items) :
      Reads (.quote :: parts) (.literal '\'' :: items)
  | quoted {inside : Text} {parts : List Part} {items : List DateItem}
      (others : Reads parts items) :
      Reads (.quoted inside :: parts) (inside.map .literal ++ items)
  | other {c : Char} {parts : List Part} {items : List DateItem} (others : Reads parts items) :
      Reads (.other c :: parts) (.literal c :: items)

theorem scan_single (ends : rest.head? ≠ some '\'') (quoted : Bool) :
    scan quoted ('\'' :: rest) = scan (!quoted) rest := by
  rw [scan]
  rintro after rfl
  exact ends rfl

theorem scan_literal {quoted : Bool} (noQuote : c ≠ '\'')
    (literal : ¬ (!quoted && c.isAlpha) = true) (rest : Text) :
    scan quoted (c :: rest) = (.literal c :: ·) <$> scan quoted rest := by
  rw [scan, if_neg literal]
  · exact fun _ first => absurd first noQuote
  · exact noQuote

/-- What is read of quoted text, up to the closing quote. -/
theorem scan_quoted (inside : Text) (ends : rest.head? ≠ some '\'') :
    scan true (doubled inside ++ '\'' :: rest)
      = (inside.map .literal ++ ·) <$> scan false rest := by
  induction inside with
  | nil =>
    rw [doubled_nil, List.nil_append, scan_single ends]
    exact (id_map (scan false rest)).symm
  | cons c inside ih =>
    by_cases quote : c = '\''
    · subst quote
      rw [doubled_quote, List.cons_append, List.cons_append, scan, ih, Functor.map_map]
      rfl
    · rw [doubled_other quote, List.cons_append, scan_literal quote (by simp), ih, Functor.map_map]
      rfl

theorem ne_quote_of_letter (letter : c.isAlpha = true) : c ≠ '\'' := by
  rintro rfl
  cases letter

/-- A run of a letter is read as its field. -/
theorem scan_run {more : Nat} {f : DateField} (letter : c.isAlpha = true)
    (ends : rest.head? ≠ some c) (stands : DateField.ofLetter? c (1 + more) = some f) :
    scan false (c :: (List.replicate more c ++ rest)) = (.field f :: ·) <$> scan false rest := by
  obtain ⟨taken, dropped⟩ := takeWhile_run more ends
  rw [scan, if_pos (by rw [letter]; rfl), taken, dropped, List.length_replicate, stands]
  · exact fun _ first => absurd first (ne_quote_of_letter letter)
  · exact ne_quote_of_letter letter

/-- The items of legal parts come before those of what follows. -/
theorem scan_of_spells (spelled : Spells s parts rest) (legal : Legal parts) :
    ∃ items, Reads parts items ∧ scan false s = (items ++ ·) <$> scan false rest := by
  induction spelled with
  | @nothing s => exact ⟨[], .nothing, (id_map (scan false s)).symm⟩
  | @part s t rest p parts first _ ih =>
    have whole : Legal ([p] ++ parts) := legal
    obtain ⟨items, reads, scanned⟩ := ih whole.right
    cases first with
    | @run c more _ letter ends =>
      obtain ⟨f, stands⟩ := DateField.exists_ofLetter? (legal c (List.mem_cons_self ..)) (1 + more)
      refine ⟨_, .run stands reads, ?_⟩
      rw [scan_run letter ends stands, scanned]
      exact Functor.map_map ..
    | quote =>
      refine ⟨_, .quote reads, ?_⟩
      rw [scan, scanned, Functor.map_map]
      rfl
    | @quoted c inside _ opens ends =>
      refine ⟨_, .quoted reads, ?_⟩
      have single : (doubled (c :: inside) ++ '\'' :: t).head? ≠ some '\'' := by
        rwa [doubled_other opens, List.cons_append, List.head?_cons, ne_eq, Option.some.injEq]
      rw [scan_single single, Bool.not_false, scan_quoted _ ends, scanned, Functor.map_map]
      simp only [List.append_assoc]
    | @other c _ noLetter noQuote =>
      refine ⟨_, .other reads, ?_⟩
      rw [scan_literal noQuote (by simp [noLetter]), scanned, Functor.map_map]
      rfl

/-- Every quote that opens a text is closed. -/
def Closed (s : Text) : Prop := ∃ parts, Spells s parts []

/-- This is wrong with a pattern at this place. -/
def OffendsAt (s : Text) (place : Nat) (e : DatePatternError) : Prop :=
  ∃ parts, Spells s parts (s.drop place) ∧ Offends (s.drop place) e

/-- This is wrong with a pattern at the first place where anything is. -/
def FirstOffence (s : Text) (e : DatePatternError) : Prop :=
  ∃ place, OffendsAt s place e ∧ ∀ other e', OffendsAt s other e' → place ≤ other

/-- A pattern goes wrong first at one place, in one way. -/
theorem FirstOffence.unique {e' : DatePatternError} (h : FirstOffence s e)
    (h' : FirstOffence s e') : e = e' := by
  obtain ⟨place, wrong, first⟩ := h
  obtain ⟨place', wrong', first'⟩ := h'
  obtain rfl := Nat.le_antisymm (first place' e' wrong') (first' place e wrong)
  obtain ⟨_, _, offends⟩ := wrong
  obtain ⟨_, _, offends'⟩ := wrong'
  exact offends.unique offends'

theorem anyField_iff {q : DatePattern} {condition : DateField → Bool} :
    q.anyField condition = true ↔ ∃ f, .field f ∈ q.items ∧ condition f = true := by
  rw [anyField, List.any_eq_true]
  constructor
  · rintro ⟨item, mem, holds⟩
    cases item with
    | field f => exact ⟨f, mem, holds⟩
    | literal c => cases holds
  · rintro ⟨f, mem, holds⟩
    exact ⟨_, mem, holds⟩

end DatePattern

end TrajectoryFormat

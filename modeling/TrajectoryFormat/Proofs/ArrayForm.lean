import TrajectoryFormat.Description.Declaration
import TrajectoryFormat.Proofs.Casing

/-!
# The form of array declarations

An array declaration opens with its mark, in whatever case. Triples of a word, a type and a
delimiter, with one space after each part, make an array declaration between the opening and a
closing parenthesis.
-/

namespace TrajectoryFormat.Description

open Text Pattern

/-! ## Parts of the form -/

def blankForm : Pattern := .one .blank

def wordForm : Pattern := Pattern.some (.one .word)

def dateForm : Pattern :=
  Pattern.all [.spelled patternOpening, Pattern.some (.one .inLine), .spelled patternClosing]

def typeForm : Pattern :=
  .either dateForm
    (.either (Pattern.all [.spelled arrayOpening, Pattern.some (.one .inLine),
      .spelled ")"]) wordForm)

def delimiterForm : Pattern :=
  .either (.one .nonWord) (.either (.spelled "LN") (.either (.spelled "LS") (.spelled "EOF")))

def tripleForm : Pattern :=
  Pattern.all [.many blankForm, wordForm, Pattern.some blankForm, typeForm, Pattern.some blankForm,
    delimiterForm, .many blankForm]

theorem arrayForm_eq :
    arrayForm = Pattern.all [.spelled arrayOpening, Pattern.some tripleForm, .spelled ")"] := rfl

theorem opensWith_of_covers {declaration : Text} (h : arrayForm.covers declaration = true) :
    arrayOpening.opensWith declaration = true := by
  rw [covers_iff, arrayForm_eq, describes_all_cons] at h
  obtain ⟨opening, rest, spelled, _, rfl⟩ := h
  have plain : ∀ c ∈ arrayOpening, c.toLower ≠ 's' ∧ c.toLower ≠ 'k' :=
    List.all_iff_forall_prop.mp (by decide)
  exact opensWith_iff.mpr ⟨opening, rest, lower_of_describes_spelled plain spelled, rfl⟩

@[simp] theorem isBlank_space : isBlank ' ' = true := by
  unfold isBlank
  decide

theorem describes_date {pattern : Text} (nonempty : pattern ≠ []) (oneLine : '\n' ∉ pattern) :
    Describes dateForm (patternOpening ++ (pattern ++ patternClosing)) := by
  have inLine : ∀ c ∈ pattern, CharClass.holds .inLine c = true := by
    intro c mem
    simp only [CharClass.holds, bne_iff_ne, ne_eq]
    rintro rfl
    exact oneLine mem
  exact describes_all_cons.mpr ⟨_, _, describes_spelled_self _,
    describes_all_cons.mpr ⟨_, _, describes_some_one nonempty inLine,
      describes_spelled_self _, rfl⟩, rfl⟩

theorem describes_word {word : Text} (nonempty : word ≠ [])
    (letters : ∀ c ∈ word, isWord c = true) :
    Describes wordForm word := describes_some_one nonempty letters

theorem describes_triple {name type delimiter : Text} (named : Describes wordForm name)
    (typed : Describes typeForm type) (closed : Describes delimiterForm delimiter) :
    Describes tripleForm (name ++ ' ' :: (type ++ ' ' :: (delimiter ++ [' ']))) := by
  have space : Describes (Pattern.some blankForm) [' '] :=
    describes_some_one (List.cons_ne_nil _ _) (by simp [CharClass.holds, isBlank_space])
  have spaces : Describes (.many blankForm) [' '] :=
    describes_many_one (by simp [CharClass.holds, isBlank_space])
  refine describes_all_cons.mpr ⟨[], _, .none, ?_, rfl⟩
  refine describes_all_cons.mpr ⟨name, _, named, ?_, rfl⟩
  refine describes_all_cons.mpr ⟨[' '], _, space, ?_, rfl⟩
  refine describes_all_cons.mpr ⟨type, _, typed, ?_, rfl⟩
  refine describes_all_cons.mpr ⟨[' '], _, space, ?_, rfl⟩
  exact describes_all_cons.mpr ⟨delimiter, [' '], closed, spaces, rfl⟩

/-- Triples between the opening and a parenthesis have the form of an array declaration. -/
theorem covers_of_triples {triples : List Text} (nonempty : triples ≠ [])
    (described : ∀ triple ∈ triples, Describes tripleForm triple) :
    arrayForm.covers (arrayOpening ++ (triples.flatten ++ [')'])) = true := by
  rw [covers_iff, arrayForm_eq]
  have inside : Describes (Pattern.some tripleForm) triples.flatten := by
    cases triples with
    | nil => exact absurd rfl nonempty
    | cons triple rest =>
      rw [List.forall_mem_cons] at described
      exact describes_some.mpr ⟨_, _, described.1, describes_many_flatten described.2, rfl⟩
  exact describes_all_cons.mpr ⟨_, _, describes_spelled_self _,
    describes_all_cons.mpr ⟨_, _, inside, describes_spelled_self [')'], rfl⟩, rfl⟩

end TrajectoryFormat.Description

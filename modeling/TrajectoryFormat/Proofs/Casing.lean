import Mathlib.Data.Bool.AllAny
import TrajectoryFormat.Proofs.PatternLanguage
import TrajectoryFormat.Vocabulary.DeclaredType

/-!
# Openings in any case

A text opens with a mark where it begins with the letters of the mark, each in some case. The
opening of an array and that of a date begin with different letters, so a text has one of them at
most.
-/

namespace TrajectoryFormat

namespace Text

@[simp] theorem lower_nil : lower [] = [] := rfl

@[simp] theorem lower_cons (c : Char) (s : Text) : lower (c :: s) = c.toLower :: lower s := rfl

theorem sameIgnoringCase_iff {s t : Text} : sameIgnoringCase s t = true ↔ lower s = lower t := by
  simp [sameIgnoringCase]

theorem opensWith_iff {mark s : Text} :
    opensWith mark s = true ↔ ∃ m t, lower m = lower mark ∧ s = m ++ t := by
  rw [opensWith, sameIgnoringCase_iff]
  constructor
  · intro same
    exact ⟨s.take mark.length, s.drop mark.length, same.symm, (List.take_append_drop _ s).symm⟩
  · rintro ⟨m, t, same, rfl⟩
    have length : m.length = mark.length := by simpa [lower] using congrArg List.length same
    rw [← length, List.take_left, same]

@[simp] theorem opensWith_append (mark t : Text) : opensWith mark (mark ++ t) = true :=
  opensWith_iff.mpr ⟨mark, t, rfl, rfl⟩

/-- A text that opens with a mark opens with its first letter. -/
theorem head_of_opensWith {a : Char} {mark s : Text} (h : opensWith (a :: mark) s = true) :
    (lower s).head? = some a.toLower := by
  obtain ⟨m, t, same, rfl⟩ := opensWith_iff.mp h
  cases m with
  | nil => cases same
  | cons c m =>
    rw [lower_cons, lower_cons, List.cons.injEq] at same
    rw [List.cons_append, lower_cons, List.head?_cons, same.1]

end Text

namespace Pattern

/-- What spells a word without `s` and `k` is the word but for its case: only these letters have a
relative outside ASCII. -/
theorem lower_of_describes_spelled {word s : Text}
    (plain : ∀ a ∈ word, a.toLower ≠ 's' ∧ a.toLower ≠ 'k') (h : Describes (spelled word) s) :
    Text.lower s = Text.lower word := by
  rw [describes_spelled] at h
  induction h with
  | nil => rfl
  | @cons a c word s same _ ih =>
    rw [List.forall_mem_cons] at plain
    have letter : a.toLower = c.toLower := by
      simpa [CharClass.sameLetter, plain.1.1, plain.1.2] using same
    rw [Text.lower_cons, Text.lower_cons, ih plain.2, letter]

/-- A word is spelled in whatever case. -/
theorem describes_spelled_of_sameIgnoringCase {word s : Text}
    (same : Text.sameIgnoringCase word s = true) :
    Describes (spelled word) s := by
  rw [Text.sameIgnoringCase_iff, ← List.forall₂_eq_eq_eq, Text.lower, Text.lower,
    List.forall₂_map_left_iff, List.forall₂_map_right_iff] at same
  rw [describes_spelled]
  refine same.imp fun a c letter => ?_
  simp [CharClass.sameLetter, letter]

end Pattern

/-! ## Array and date types -/

/-- A type is no reserved word that does not open as the type does. -/
theorem DeclaredType.not_sameIgnoringCase_of_opensWith {mark declared : Text} {k : Keyword}
    (opens : mark.opensWith declared = true) (other : ¬ Text.lower mark <+: Text.lower k.name) :
    ¬ Text.sameIgnoringCase declared k.name = true := by
  rw [Text.sameIgnoringCase_iff]
  intro same
  obtain ⟨opening, rest, written, rfl⟩ := Text.opensWith_iff.mp opens
  refine other ⟨Text.lower rest, ?_⟩
  rw [← same, ← written, Text.lower, Text.lower, Text.lower, List.map_append]

theorem DeclaredType.isArray_of_opensWith {declared : Text}
    (array : arrayOpening.opensWith declared = true) : DeclaredType.isArray declared = true := by
  have notDate : ¬ dateOpening.opensWith declared = true := by
    intro date
    have first : (Text.lower declared).head? = some 'a' := Text.head_of_opensWith array
    have other : (Text.lower declared).head? = some 'd' := Text.head_of_opensWith date
    rw [first] at other
    exact absurd other (by decide)
  rw [isArray, basic, if_neg (not_sameIgnoringCase_of_opensWith array (by decide)),
    if_neg (not_sameIgnoringCase_of_opensWith array (by decide)), if_neg notDate, if_pos array]
  decide

theorem DeclaredType.isDatetime_of_opensWith {declared : Text}
    (date : dateOpening.opensWith declared = true) : DeclaredType.isDatetime declared = true := by
  rw [isDatetime, basic, if_neg (not_sameIgnoringCase_of_opensWith date (by decide)),
    if_neg (not_sameIgnoringCase_of_opensWith date (by decide)), if_pos date]
  decide

end TrajectoryFormat

import Mathlib.Data.List.TakeWhile
import TrajectoryFormat.Proofs.Words

/-!
# Words of a text

A blank parts the words before it from those after it, and everything about words follows from that.
A text is read word by word: it is empty, or it begins with a blank, or with a word that ends at a
blank or at the end of the text. Squeezing and trimming keep the words.
-/

namespace TrajectoryFormat.Text

variable {s t w : Text} {c : Char}

@[simp] theorem words_nil : words [] = [] := rfl

theorem words_append_blank (blank : isBlank c = true) (s t : Text) :
    words (s ++ c :: t) = words s ++ words t := by
  rw [words, List.splitOnP_append_cons _ _ blank, List.filter_append, words, words]

theorem words_blank (blank : isBlank c = true) (s : Text) : words (c :: s) = words s :=
  words_append_blank blank [] s

theorem words_append (nonempty : w ≠ []) (unblank : ∀ c ∈ w, isBlank c = false)
    (ends : Description.endsWord s = true) : words (w ++ s) = w :: words s := by
  cases s with
  | nil => rw [List.append_nil, words_word nonempty unblank, words_nil]
  | cons c s =>
    rw [words_append_blank ends, words_word nonempty unblank, words_blank ends,
      List.singleton_append]

/-- A text word by word. -/
@[elab_as_elim]
theorem word_induction {motive : Text → Prop} (s : Text) (nil : motive [])
    (blank : ∀ c s, isBlank c = true → motive s → motive (c :: s))
    (word : ∀ w s, w ≠ [] → (∀ c ∈ w, isBlank c = false) →
      Description.endsWord s = true → motive s →
      motive (w ++ s)) : motive s := by
  induction length : s.length using Nat.strongRecOn generalizing s with
  | ind n ih =>
    subst length
    cases s with
    | nil => exact nil
    | cons c s =>
      by_cases first : isBlank c = true
      · exact blank c s first (ih s.length (by simp) s rfl)
      · have split : c :: s = c :: s.takeWhile (!isBlank ·) ++ s.dropWhile (!isBlank ·) := by
          rw [List.cons_append, List.takeWhile_append_dropWhile]
        have shorter : (s.dropWhile (!isBlank ·)).length < (c :: s).length := by
          have := (List.dropWhile_sublist (l := s) (!isBlank ·)).length_le
          rw [List.length_cons]
          omega
        have ends : Description.endsWord (s.dropWhile (!isBlank ·)) = true := by
          have stops := List.head?_dropWhile_not (!isBlank ·) s
          cases rest : s.dropWhile (!isBlank ·) with
          | nil => rfl
          | cons d rest => simpa [rest, Description.endsWord] using stops
        rw [split]
        apply word _ _ (List.cons_ne_nil _ _) _ ends (ih _ shorter _ rfl)
        rw [List.forall_mem_cons]
        exact ⟨by simpa using first, fun d mem => by simpa using List.mem_takeWhile_imp mem⟩

theorem solid_of_mem_words : ∀ w ∈ words s, w ≠ [] ∧ ∀ c ∈ w, isBlank c = false := by
  induction s using word_induction with
  | nil => exact fun w mem => absurd mem List.not_mem_nil
  | blank c s blank ih => rwa [words_blank blank]
  | word v s nonempty unblank ends ih =>
    rw [words_append nonempty unblank ends, List.forall_mem_cons]
    exact ⟨⟨nonempty, unblank⟩, ih⟩

/-- The words hold the characters that are not blank, in order. -/
@[simp] theorem flatten_words (s : Text) : (words s).flatten = s.filter (!isBlank ·) := by
  induction s using word_induction with
  | nil => rfl
  | blank c s blank ih => rw [words_blank blank, ih, List.filter_cons_of_neg (by simp [blank])]
  | word w s nonempty unblank ends ih =>
    have kept : w.filter (!isBlank ·) = w := List.filter_eq_self.mpr fun c mem => by
      simp [unblank c mem]
    rw [words_append nonempty unblank ends, List.flatten_cons, ih, List.filter_append, kept]

theorem words_join {ws : List Text} (solid : ∀ w ∈ ws, w ≠ [] ∧ ∀ c ∈ w, isBlank c = false) :
    words (join " " ws) = ws := by
  induction ws with
  | nil => rfl
  | cons w ws ih =>
    rw [List.forall_mem_cons] at solid
    cases ws with
    | nil => rw [join_singleton, words_word solid.1.1 solid.1.2]
    | cons v ws =>
      rw [join_cons_cons, List.append_assoc, show (" " : Text) = [' '] from rfl,
        List.singleton_append, words_cons _ solid.1.1 solid.1.2]
      exact congrArg _ (ih solid.2)

@[simp] theorem words_squeeze (s : Text) : words (squeeze s) = words s :=
  words_join solid_of_mem_words

/-- Texts with the same words are squeezed alike. -/
theorem squeeze_congr (same : words s = words t) : squeeze s = squeeze t := by
  rw [squeeze, squeeze, same]

theorem spaced_squeeze (some : words s ≠ []) : Spaced (squeeze s) :=
  Spaced.of_words some solid_of_mem_words

/-! ## Blanks at the ends -/

theorem words_append_blanks (s : Text) {b : Text} (blank : ∀ c ∈ b, isBlank c = true) :
    words (s ++ b) = words s := by
  cases b with
  | nil => rw [List.append_nil]
  | cons c b =>
    rw [List.forall_mem_cons] at blank
    have none : words b = [] := by
      have rest := blank.2
      clear blank
      induction b with
      | nil => rfl
      | cons d b ih =>
        rw [List.forall_mem_cons] at rest
        rw [words_blank rest.1, ih rest.2]
    rw [words_append_blank blank.1, none, List.append_nil]

theorem trimEnd_append_blanks (s : Text) :
    ∃ b, (∀ c ∈ b, isBlank c = true) ∧ s = trimEnd s ++ b := by
  refine ⟨(s.reverse.takeWhile isBlank).reverse, fun c mem => ?_, ?_⟩
  · exact List.mem_takeWhile_imp (List.mem_reverse.mp mem)
  · rw [trimEnd, ← List.reverse_append, List.takeWhile_append_dropWhile, List.reverse_reverse]

@[simp] theorem words_trimStart (s : Text) : words (trimStart s) = words s := by
  induction s with
  | nil => rfl
  | cons c s ih =>
    rw [trimStart, List.dropWhile_cons]
    split
    · next blank => rw [words_blank blank, ← ih, trimStart]
    · rfl

@[simp] theorem words_trim (s : Text) : words (trim s) = words s := by
  obtain ⟨b, blank, split⟩ := trimEnd_append_blanks (trimStart s)
  rw [trim, ← words_append_blanks _ blank, ← split, words_trimStart]

theorem head_trimStart (s : Text) : ∀ c, (trimStart s).head? = some c → isBlank c = false := by
  intro c first
  have stops := List.head?_dropWhile_not isBlank s
  rw [trimStart] at first
  simpa only [first] using stops

/-- The first character of a text stays where it is not blank. -/
theorem trimEnd_cons (unblank : isBlank c = false) (s : Text) :
    trimEnd (c :: s) = c :: trimEnd s := by
  rw [trimEnd, List.reverse_cons, List.dropWhile_append]
  split
  · next rest =>
    rw [List.isEmpty_iff] at rest
    simp [trimEnd, rest, unblank]
  · rw [List.reverse_append, List.reverse_singleton, List.singleton_append, trimEnd]

theorem head_trim (s : Text) : ∀ c, (trim s).head? = some c → isBlank c = false := by
  intro c first
  rw [trim] at first
  cases start : trimStart s with
  | nil =>
    rw [start] at first
    cases first
  | cons d t =>
    have unblank := head_trimStart s d (by rw [start]; rfl)
    rw [start, trimEnd_cons unblank] at first
    cases first
    exact unblank

end TrajectoryFormat.Text

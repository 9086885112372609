import TrajectoryFormat.Proofs.TextWords

/-!
# Open arrays

The search for the closing parenthesis of an array goes through a text from left to right, and it
looks ahead only to see whether a word ends. So the place it has reached after a text decides how it
goes on, whatever follows a blank, and one blank leaves it at the same place as many. Whether the
first array of a line is open depends on the words of the line alone.
-/

namespace TrajectoryFormat

namespace Text

variable {mark s t w r : Text}

/-! ## The first opening -/

theorem opensWith_append_of (opens : opensWith mark s = true) (t : Text) :
    opensWith mark (s ++ t) = true := by
  obtain ⟨m, rest, same, rfl⟩ := opensWith_iff.mp opens
  exact opensWith_iff.mpr ⟨m, rest ++ t, same, List.append_assoc ..⟩

/-- What a text opens with it still opens with where the end is cut off, if the mark lies before the
cut. -/
theorem opensWith_of_append (fits : mark.length ≤ s.length)
    (opens : opensWith mark (s ++ t) = true) :
    opensWith mark s = true := by
  rw [opensWith, List.take_append_of_le_length fits] at opens
  exact opens

theorem length_le_of_opensWith (opens : opensWith mark s = true) : mark.length ≤ s.length := by
  obtain ⟨m, rest, same, rfl⟩ := opensWith_iff.mp opens
  have length : m.length = mark.length := by simpa [lower] using congrArg List.length same
  rw [List.length_append]
  omega

theorem length_afterIgnoringCase? (found : afterIgnoringCase? mark s = some r) :
    r.length + mark.length ≤ s.length := by
  induction s with
  | nil =>
    rw [afterIgnoringCase?] at found
    split at found
    · next empty =>
      cases found
      simpa using empty
    · cases found
  | cons c s ih =>
    rw [afterIgnoringCase?] at found
    split at found
    · next opens =>
      have := length_le_of_opensWith opens
      cases found
      rw [List.length_drop]
      omega
    · have := ih found
      rw [List.length_cons]
      omega

/-- An opening stays the first one whatever follows it. -/
theorem afterIgnoringCase?_extend (found : afterIgnoringCase? mark s = some r) (t : Text) :
    afterIgnoringCase? mark (s ++ t) = some (r ++ t) := by
  induction s with
  | nil =>
    rw [afterIgnoringCase?] at found
    split at found
    · next empty =>
      cases found
      rw [List.isEmpty_iff] at empty
      cases t <;> simp [afterIgnoringCase?, empty, opensWith, sameIgnoringCase]
    · cases found
  | cons c s ih =>
    rw [afterIgnoringCase?] at found
    split at found
    · next opens =>
      cases found
      rw [List.cons_append, afterIgnoringCase?, ← List.cons_append,
        if_pos (opensWith_append_of opens t),
        List.drop_append_of_le_length (length_le_of_opensWith opens)]
    · next closed =>
      have shorter := length_afterIgnoringCase? found
      have closed : ¬ opensWith mark (c :: s ++ t) = true := fun opens =>
        closed (opensWith_of_append (by rw [List.length_cons]; omega) opens)
      rw [List.cons_append, afterIgnoringCase?, ← List.cons_append, if_neg closed, ih found]

/-- An opening that lies before a cut is found without the end that is cut off. -/
theorem afterIgnoringCase?_cut (nonempty : mark ≠ [])
    (found : afterIgnoringCase? mark (s ++ t) = some r) (before : t.length ≤ r.length) :
    ∃ rest, afterIgnoringCase? mark s = some rest ∧ r = rest ++ t := by
  have positive := List.length_pos_iff.mpr nonempty
  induction s with
  | nil =>
    have := length_afterIgnoringCase? found
    rw [List.nil_append] at this
    omega
  | cons c s ih =>
    rw [List.cons_append, afterIgnoringCase?, ← List.cons_append] at found
    split at found
    · next opens =>
      cases found
      have fits : mark.length ≤ (c :: s).length := by
        rw [List.length_drop, List.length_append] at before
        have := length_le_of_opensWith opens
        rw [List.length_append] at this
        omega
      refine ⟨(c :: s).drop mark.length, ?_, List.drop_append_of_le_length fits⟩
      rw [afterIgnoringCase?, if_pos (opensWith_of_append fits opens)]
    · next closed =>
      obtain ⟨rest, first, rfl⟩ := ih found
      have closed : ¬ opensWith mark (c :: s) = true :=
        fun opens => closed (opensWith_append_of opens t)
      exact ⟨rest, by rw [afterIgnoringCase?, if_neg closed, first], rfl⟩

/-- The words of a text with one space after each. -/
def evenly (s : Text) : Text := (words s).flatMap (· ++ [' '])

theorem evenly_blank {c : Char} (blank : isBlank c = true) (s : Text) :
    evenly (c :: s) = evenly s := by
  rw [evenly, words_blank blank, evenly]

theorem evenly_append (nonempty : w ≠ []) (unblank : ∀ c ∈ w, isBlank c = false)
    (ends : Description.endsWord s = true) : evenly (w ++ s) = w ++ ' ' :: evenly s := by
  rw [evenly, words_append nonempty unblank ends, List.flatMap_cons, List.append_assoc, evenly,
    List.singleton_append]

end Text

namespace Description

open Text

variable {n : Nesting} {s t after : Text}

/-! ## The place after a text -/

theorem endsWord_append (s : Text) (ends : endsWord after = true) :
    endsWord (s ++ after) = endsWord s := by
  cases s with
  | nil => exact ends
  | cons c s => rfl

namespace Nesting

/-- The place after a text, where the array is still open. -/
def past? (n : Nesting) : Text → Option Nesting
  | [] => some n
  | c :: rest => (n.next? c rest).bind fun n => n.past? rest

/-- The place after a blank. -/
def parted (n : Nesting) : Nesting :=
  { n with slot := if n.inWord && n.depth == 0 then n.slot + 1 else n.slot, inWord := false }

@[simp] theorem inWord_parted : n.parted.inWord = false := rfl

theorem parted_of_not_inWord (outside : n.inWord = false) : n.parted = n := by
  cases n
  cases outside
  rfl

theorem next?_append (c : Char) (s : Text) (ends : endsWord after = true) :
    n.next? c (s ++ after) = n.next? c s := by
  rw [next?, next?, isDelimiter, isDelimiter, endsWord_append s ends]

theorem past?_append (s : Text) (ends : endsWord after = true) :
    n.past? (s ++ after) = (n.past? s).bind fun n => n.past? after := by
  induction s generalizing n with
  | nil => rfl
  | cons c s ih =>
    rw [List.cons_append, past?, past?, next?_append c s ends, Option.bind_assoc]
    exact Option.bind_congr fun m _ => ih

theorem past?_blank {c : Char} (blank : isBlank c = true) (s : Text) :
    n.past? (c :: s) = n.parted.past? s := by
  rw [past?, next?, if_pos blank]
  rfl

/-- Where a word has ended, it does not matter whether a blank has been read. -/
theorem isSome_past?_parted (ends : endsWord s = true) :
    (n.parted.past? s).isSome = (n.past? s).isSome := by
  cases s with
  | nil => rfl
  | cons c s => rw [past?_blank ends, past?_blank ends, parted_of_not_inWord inWord_parted]

theorem isNone_close? (n : Nesting) (s : Text) : (n.close? s).isNone = (n.past? s).isSome := by
  induction s generalizing n with
  | nil => rfl
  | cons c s ih =>
    rw [close?, past?]
    cases n.next? c s with
    | none => rfl
    | some m => rw [Option.isNone_map, ih, Option.bind_some]

/-- What follows a closed array grows with the text. -/
theorem close?_append {inside rest : Text} (closed : n.close? s = some (inside, rest))
    (ends : endsWord after = true) : n.close? (s ++ after) = some (inside, rest ++ after) := by
  induction s generalizing n inside with
  | nil => cases closed
  | cons c s ih =>
    rw [List.cons_append, close?, next?_append c s ends]
    rw [close?] at closed
    cases next : n.next? c s with
    | none =>
      rw [next] at closed
      cases closed
      rfl
    | some m =>
      simp only [next, Option.map_eq_some_iff, Prod.mk.injEq, Prod.exists] at closed ⊢
      obtain ⟨i, a, found, rfl, rfl⟩ := closed
      exact ⟨i, _, ih found, rfl, rfl⟩

/-- Only the words count for a place that no word has begun at. -/
theorem isSome_past?_evenly (outside : n.inWord = false) :
    (n.past? (evenly s)).isSome = (n.past? s).isSome := by
  induction s using word_induction generalizing n with
  | nil => rfl
  | blank c s blank ih =>
    rw [evenly_blank blank, past?_blank blank, parted_of_not_inWord outside]
    exact ih outside
  | word w s nonempty unblank ends ih =>
    rw [evenly_append nonempty unblank ends, past?_append w (endsWord_space _), past?_append w ends]
    cases n.past? w with
    | none => rfl
    | some m =>
      rw [Option.bind_some, Option.bind_some, past?_blank isBlank_space, ih inWord_parted,
        isSome_past?_parted ends]

end Nesting

/-! ## Open lines -/

section OpenLines
variable {w : Text} {c : Char}

theorem isOpenArray_of_found {inside : Text}
    (found : afterIgnoringCase? arrayOpening s = some inside) :
    isOpenArray s = (({} : Nesting).past? inside).isSome := by
  rw [isOpenArray, found]
  exact Nesting.isNone_close? _ _

theorem isOpenArray_of_lacks (lacks : afterIgnoringCase? arrayOpening s = none) :
    isOpenArray s = false := by
  rw [isOpenArray, lacks]

theorem isOpenArray_blank (blank : isBlank c = true) (t : Text) :
    isOpenArray (c :: t) = isOpenArray t := by
  rw [isOpenArray, afterIgnoringCase?_blank solid_arrayOpening (by decide) blank, isOpenArray]

/-- What lacks the opening of an array leaves the array to what follows. -/
theorem isOpenArray_append (lacks : afterIgnoringCase? arrayOpening w = none)
    (ends : endsWord t = true) :
    isOpenArray (w ++ t) = isOpenArray t := by
  rw [isOpenArray, afterIgnoringCase?_append solid_arrayOpening (by decide) lacks ends, isOpenArray]

theorem IsWord.isOpenArray_append (word : IsWord w) (s : Text) :
    isOpenArray (w ++ ' ' :: s) = isOpenArray s := by
  rw [Description.isOpenArray_append word.noArray (endsWord_space _),
    isOpenArray_blank isBlank_space]

@[simp] theorem isOpenArray_evenly (s : Text) : isOpenArray (evenly s) = isOpenArray s := by
  induction s using word_induction with
  | nil => rfl
  | blank c s blank ih => rw [evenly_blank blank, isOpenArray_blank blank, ih]
  | word w s nonempty unblank ends ih =>
    rw [evenly_append nonempty unblank ends]
    cases found : afterIgnoringCase? arrayOpening w with
    | none =>
      rw [isOpenArray_append found (endsWord_space _), isOpenArray_append found ends,
        isOpenArray_blank isBlank_space, ih]
    | some inside =>
      rw [isOpenArray_of_found (afterIgnoringCase?_extend found _),
        isOpenArray_of_found (afterIgnoringCase?_extend found _),
        Nesting.past?_append inside (endsWord_space _), Nesting.past?_append inside ends]
      cases ({} : Nesting).past? inside with
      | none => rfl
      | some m =>
        rw [Option.bind_some, Option.bind_some, Nesting.past?_blank isBlank_space,
          Nesting.isSome_past?_evenly Nesting.inWord_parted, Nesting.isSome_past?_parted ends]

/-- Lines with the same words are both open or both closed. -/
theorem isOpenArray_congr (same : words s = words t) : isOpenArray s = isOpenArray t := by
  rw [← isOpenArray_evenly s, ← isOpenArray_evenly t, evenly, evenly, same]

end OpenLines

end Description

end TrajectoryFormat

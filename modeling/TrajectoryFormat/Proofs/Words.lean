import TrajectoryFormat.Proofs.ArrayForm
import TrajectoryFormat.Proofs.Letters
import TrajectoryFormat.Proofs.Splitting

/-!
# Words on a line

A word has no blanks and holds neither the opening of an array nor that of a date. Between blanks
such a word goes through the making of logical lines as it is, and it is one piece. A quoted date
pattern and an array that is closed are one piece each, and in a text of pieces with one space
between neighbours the pieces are found again.
-/

namespace TrajectoryFormat

namespace Text

/-! ## Openings before a stop -/

section Openings
variable {mark w after : Text}

/-- The text is empty, or it begins with a character that the mark does not have. -/
def Stops (mark after : Text) : Prop := ∀ c, after.head? = some c → c.toLower ∉ lower mark

/-- A blank stops a mark without blanks. -/
theorem stops_of_endsWord (solid : ∀ c ∈ mark, isBlank c = false)
    (ends : Description.endsWord after = true) :
    Stops mark after := by
  intro c first inside
  obtain ⟨rest, rfl⟩ := List.head?_eq_some_iff.mp first
  obtain ⟨d, mem, lowered⟩ := List.mem_map.mp inside
  rw [Description.endsWord, ← isBlank_toLower, ← lowered, isBlank_toLower, solid d mem] at ends
  cases ends

/-- A mark that a text opens with ends before what stops it. -/
theorem opensWith_append_of_stops (stops : Stops mark after) :
    opensWith mark (w ++ after) = opensWith mark w := by
  rw [Bool.eq_iff_iff, opensWith_iff, opensWith_iff]
  constructor
  · rintro ⟨m, t, same, split⟩
    rcases List.append_eq_append_iff.mp split with ⟨a, rfl, tail⟩ | ⟨a, rfl, tail⟩
    · cases a with
      | nil => exact ⟨w, [], by simpa using same, by simp⟩
      | cons b a =>
        have inside : b.toLower ∈ lower mark := by
          rw [← same, lower]
          exact List.mem_map_of_mem (by simp)
        exact absurd inside (stops b (by rw [tail, List.cons_append, List.head?_cons]))
    · exact ⟨m, a, same, rfl⟩
  · rintro ⟨m, t, same, rfl⟩
    exact ⟨m, t ++ after, same, List.append_assoc ..⟩

/-- A mark without blanks that a text opens with ends before the first blank. -/
theorem opensWith_word (solid : ∀ c ∈ mark, isBlank c = false)
    (ends : Description.endsWord after = true) : opensWith mark (w ++ after) = opensWith mark w :=
  opensWith_append_of_stops (stops_of_endsWord solid ends)

theorem opensWith_of_lacks (nonempty : mark ≠ []) (lacks : afterIgnoringCase? mark w = none) :
    opensWith mark w = false := by
  cases w with
  | nil => cases mark with
    | nil => exact absurd rfl nonempty
    | cons m mark => rfl
  | cons c w =>
    rw [afterIgnoringCase?] at lacks
    split at lacks
    · cases lacks
    · next closed => simpa using closed

theorem lacks_tail {c : Char} (lacks : afterIgnoringCase? mark (c :: w) = none) :
    afterIgnoringCase? mark w = none := by
  rw [afterIgnoringCase?] at lacks
  split at lacks
  · cases lacks
  · exact lacks

theorem afterIgnoringCase?_append_of_stops (nonempty : mark ≠ [])
    (lacks : afterIgnoringCase? mark w = none) (stops : Stops mark after) :
    afterIgnoringCase? mark (w ++ after) = afterIgnoringCase? mark after := by
  induction w with
  | nil => rfl
  | cons c w ih =>
    have closed : opensWith mark (c :: (w ++ after)) = false := by
      rw [← List.cons_append, opensWith_append_of_stops stops, opensWith_of_lacks nonempty lacks]
    rw [List.cons_append, afterIgnoringCase?, closed, if_neg (by simp), ih (lacks_tail lacks)]

/-- A mark that a word lacks is looked for after the word. -/
theorem afterIgnoringCase?_append (solid : ∀ c ∈ mark, isBlank c = false) (nonempty : mark ≠ [])
    (lacks : afterIgnoringCase? mark w = none) (ends : Description.endsWord after = true) :
    afterIgnoringCase? mark (w ++ after) = afterIgnoringCase? mark after :=
  afterIgnoringCase?_append_of_stops nonempty lacks (stops_of_endsWord solid ends)

/-- A mark does not begin with what stops it. -/
theorem afterIgnoringCase?_cons_of_stops (nonempty : mark ≠ []) {c : Char} {s : Text}
    (stops : Stops mark (c :: s)) :
    afterIgnoringCase? mark (c :: s) = afterIgnoringCase? mark s := by
  have closed : opensWith mark (c :: s) = false := by
    have before : opensWith mark ([] ++ c :: s) = opensWith mark [] :=
      opensWith_append_of_stops stops
    rw [List.nil_append] at before
    rw [before]
    cases mark with
    | nil => exact absurd rfl nonempty
    | cons m mark => rfl
  rw [afterIgnoringCase?, closed, if_neg (by simp)]

theorem afterIgnoringCase?_blank (solid : ∀ c ∈ mark, isBlank c = false)
    (nonempty : mark ≠ []) {c : Char} (blank : isBlank c = true) (s : Text) :
    afterIgnoringCase? mark (c :: s) = afterIgnoringCase? mark s :=
  afterIgnoringCase?_cons_of_stops nonempty (stops_of_endsWord solid blank)

/-- A mark that a text opens with is found there. -/
theorem afterIgnoringCase?_opening (nonempty : mark ≠ []) (s : Text) :
    afterIgnoringCase? mark (mark ++ s) = some s := by
  obtain ⟨c, rest, rfl⟩ := List.exists_cons_of_ne_nil nonempty
  rw [List.cons_append, afterIgnoringCase?, ← List.cons_append,
    if_pos (opensWith_append (c :: rest) s), List.drop_left]

/-- A mark is lacking where one of its characters is. -/
theorem lacks_of_notMem {a : Char} (mem : a ∈ mark) (absent : ∀ c ∈ w, c.toLower ≠ a.toLower) :
    afterIgnoringCase? mark w = none := by
  induction w with
  | nil =>
    rw [afterIgnoringCase?, if_neg (by simpa using List.ne_nil_of_mem mem)]
  | cons c w ih =>
    rw [afterIgnoringCase?, if_neg, ih fun c mem => absent c (List.mem_cons_of_mem _ mem)]
    rw [opensWith_iff]
    rintro ⟨m, t, same, split⟩
    have inside : a.toLower ∈ lower m := by
      rw [same, lower]
      exact List.mem_map_of_mem mem
    obtain ⟨b, here, lowered⟩ := List.mem_map.mp inside
    exact absent b (split ▸ List.mem_append_left _ here) lowered

end Openings

/-! ## Blanks at the ends and between words -/

theorem trim_between {v w : Text} (s : Text) (nonempty : v ≠ [] ∧ w ≠ [])
    (unblank : (∀ c ∈ v, isBlank c = false) ∧ ∀ c ∈ w, isBlank c = false) :
    trim (v ++ s ++ w) = v ++ s ++ w := by
  apply trim_eq_self
  · intro c first
    rw [List.append_assoc, List.head?_append_of_ne_nil v nonempty.1] at first
    exact unblank.1 c (List.mem_of_head? first)
  · intro c last
    rw [List.getLast?_append_of_ne_nil _ nonempty.2] at last
    exact unblank.2 c (List.mem_of_getLast? last)

/-- One space at the end is trimmed with the other blanks there. -/
@[simp] theorem trim_concat_space (s : Text) : trim (s ++ [' ']) = trim s := by
  rw [trim, trim, trimStart, trimStart, List.dropWhile_append]
  split
  · next none =>
    rw [List.isEmpty_iff.mp none, List.dropWhile_cons_of_pos Description.isBlank_space,
      List.dropWhile_nil]
  · rw [trimEnd, trimEnd, List.reverse_append, List.reverse_singleton, List.singleton_append,
      List.dropWhile_cons_of_pos Description.isBlank_space]

/-- Words with one space between neighbours. -/
inductive Spaced : Text → Prop
  | word {w : Text} (nonempty : w ≠ []) (unblank : ∀ c ∈ w, isBlank c = false) : Spaced w
  | cons {w s : Text} (nonempty : w ≠ []) (unblank : ∀ c ∈ w, isBlank c = false) (rest : Spaced s) :
    Spaced (w ++ ' ' :: s)

theorem words_word {w : Text} (nonempty : w ≠ []) (unblank : ∀ c ∈ w, isBlank c = false) :
    words w = [w] := by
  rw [words, List.splitOnP_eq_singleton unblank]
  simp [nonempty]

theorem words_cons {w : Text} (s : Text) (nonempty : w ≠ [])
    (unblank : ∀ c ∈ w, isBlank c = false) :
    words (w ++ ' ' :: s) = w :: words s := by
  rw [words, List.splitOnP_append_cons_of_forall_mem unblank _ Description.isBlank_space,
    List.filter_cons_of_pos (by simpa using nonempty), words]

namespace Spaced

variable {s t w : Text}

theorem of_words {ws : List Text} (nonempty : ws ≠ [])
    (solid : ∀ w ∈ ws, w ≠ [] ∧ ∀ c ∈ w, isBlank c = false) : Spaced (join " " ws) := by
  induction ws with
  | nil => exact absurd rfl nonempty
  | cons w ws ih =>
    rw [List.forall_mem_cons] at solid
    cases ws with
    | nil =>
      rw [join_singleton]
      exact .word solid.1.1 solid.1.2
    | cons v ws =>
      rw [join_cons_cons, List.append_assoc]
      exact .cons solid.1.1 solid.1.2 (ih (List.cons_ne_nil _ _) solid.2)

theorem append (hs : Spaced s) (ht : Spaced t) : Spaced (s ++ ' ' :: t) := by
  induction hs with
  | word nonempty unblank => exact .cons nonempty unblank ht
  | cons nonempty unblank _ ih =>
    rw [List.append_assoc, List.cons_append]
    exact .cons nonempty unblank ih

theorem prepend (unblank : ∀ c ∈ w, isBlank c = false) (hs : Spaced s) : Spaced (w ++ s) := by
  have both : ∀ {v : Text}, (∀ c ∈ v, isBlank c = false) → ∀ c ∈ w ++ v, isBlank c = false := by
    intro v clear c mem
    exact (List.mem_append.mp mem).elim (unblank c) (clear c)
  cases hs with
  | word nonempty clear => exact .word (by simp [nonempty]) (both clear)
  | cons nonempty clear rest =>
    rw [← List.append_assoc]
    exact .cons (by simp [nonempty]) (both clear) rest

theorem exists_first (hs : Spaced s) : ∃ c t, s = c :: t ∧ isBlank c = false := by
  cases hs with
  | word nonempty unblank =>
    obtain ⟨c, t, rfl⟩ := List.exists_cons_of_ne_nil nonempty
    exact ⟨c, t, rfl, unblank c (by simp)⟩
  | cons nonempty unblank _ =>
    obtain ⟨c, t, rfl⟩ := List.exists_cons_of_ne_nil nonempty
    exact ⟨c, _, rfl, unblank c (by simp)⟩

theorem exists_last (hs : Spaced s) : ∃ t c, s = t ++ [c] ∧ isBlank c = false := by
  induction hs with
  | @word w nonempty unblank =>
    obtain ⟨t, c, rfl⟩ := (List.eq_nil_or_concat' w).resolve_left nonempty
    exact ⟨t, c, rfl, unblank c (by simp)⟩
  | @cons w _ _ _ _ ih =>
    obtain ⟨t, c, rfl, unblank⟩ := ih
    exact ⟨w ++ ' ' :: t, c, by simp, unblank⟩

theorem trim_eq (hs : Spaced s) : trim s = s := by
  apply trim_eq_self
  · intro c first
    obtain ⟨d, t, rfl, unblank⟩ := hs.exists_first
    cases first
    exact unblank
  · intro c last
    obtain ⟨t, d, rfl, unblank⟩ := hs.exists_last
    rw [List.getLast?_concat, Option.some.injEq] at last
    exact last ▸ unblank

/-- Words with one space between neighbours are squeezed already. -/
theorem squeeze_eq (hs : Spaced s) : squeeze s = s := by
  have some : words s ≠ [] ∧ join " " (words s) = s := by
    induction hs with
    | word nonempty unblank =>
      rw [words_word nonempty unblank, join_singleton]
      exact ⟨List.cons_ne_nil _ _, rfl⟩
    | @cons w s nonempty unblank _ ih =>
      rw [words_cons s nonempty unblank]
      obtain ⟨next, rest, split⟩ := List.exists_cons_of_ne_nil ih.1
      refine ⟨List.cons_ne_nil _ _, ?_⟩
      rw [split, join_cons_cons, ← split, ih.2]
      simp
  exact some.2

end Spaced

end Text

namespace Description

open Text

@[simp] theorem endsWord_space (s : Text) : endsWord (' ' :: s) = true := isBlank_space

theorem solid_arrayOpening : ∀ c ∈ arrayOpening, isBlank c = false := solid_of_graphic (by decide)

theorem solid_dateOpening : ∀ c ∈ dateOpening, isBlank c = false := solid_of_graphic (by decide)

/-- A word that neither opens an array or a date nor holds such an opening. -/
structure IsWord (w : Text) : Prop where
  nonempty : w ≠ []
  unblank : ∀ c ∈ w, isBlank c = false
  noArray : afterIgnoringCase? arrayOpening w = none
  noDate : afterIgnoringCase? dateOpening w = none

instance (w : Text) : Decidable (IsWord w) :=
  decidable_of_iff (w ≠ [] ∧ w.all (!isBlank ·) = true ∧ afterIgnoringCase? arrayOpening w = none
      ∧ afterIgnoringCase? dateOpening w = none)
    ⟨fun ⟨nonempty, unblank, noArray, noDate⟩ => ⟨nonempty, by simpa using unblank,
      noArray, noDate⟩,
      fun ⟨nonempty, unblank, noArray, noDate⟩ => ⟨nonempty, by simpa using unblank,
        noArray, noDate⟩⟩

/-- ASCII letters, digits and low lines make a word. -/
theorem isWord_of_continuesIdentifier {w : Text} (nonempty : w ≠ [])
    (letters : ∀ c ∈ w, continuesIdentifier c = true) : IsWord w := by
  have noBracket : ∀ c ∈ w, c ≠ '[' := by
    rintro _ mem rfl
    exact absurd (letters _ mem) (by decide)
  exact ⟨nonempty, fun c mem => isBlank_of_continuesIdentifier (letters c mem),
    lacks_of_notMem (a := '(') (by decide) fun c mem =>
      toLower_ne rfl (flat_of_continuesIdentifier (letters c mem)).1,
    lacks_of_notMem (a := '[') (by decide) fun c mem => toLower_ne rfl (noBracket c mem)⟩

/-! ## Bonding -/

@[simp] theorem isBlank_dateBond : isBlank dateBond = false := by
  unfold isBlank
  decide

@[simp] theorem isBlank_bonded (c : Char) : isBlank (bonded c) = false := by
  unfold bonded
  split
  · exact isBlank_dateBond
  · next unblank => exact Bool.eq_false_iff.mpr unblank

/-- A character that is no bond was there before. -/
theorem eq_of_bonded_eq {c x : Char} (same : bonded c = x) (noBond : x ≠ dateBond) : c = x := by
  unfold bonded at same
  split at same
  · exact absurd same.symm noBond
  · exact same

theorem opensWith_dateOpening {s : Text} (h : opensWith patternOpening s = true) :
    opensWith dateOpening s = true := by
  obtain ⟨m, t, same, rfl⟩ := opensWith_iff.mp h
  refine opensWith_iff.mpr ⟨m.take dateOpening.length, m.drop dateOpening.length ++ t, ?_, ?_⟩
  · rw [lower, List.map_take]
    exact congrArg (List.take dateOpening.length) same
  · rw [← List.append_assoc, List.take_append_drop]

theorem bondPatterns_cons {c : Char} {s : Text} (closed : opensWith dateOpening (c :: s) = false) :
    bondPatterns (c :: s) = c :: bondPatterns s := by
  have unopened : openedPattern? (c :: s) = none := by
    rw [openedPattern?, if_neg]
    intro opened
    rw [opensWith_dateOpening opened] at closed
    cases closed
  rw [bondPatterns]
  split
  · next found =>
    rw [unopened] at found
    cases found
  · rfl

@[simp] theorem bondPatterns_nil : bondPatterns [] = [] := by rw [bondPatterns]

/-- What lacks the opening of a date goes through as it is. -/
theorem bondPatterns_append {w after : Text} (lacks : afterIgnoringCase? dateOpening w = none)
    (ends : endsWord after = true) : bondPatterns (w ++ after) = w ++ bondPatterns after := by
  induction w with
  | nil => rfl
  | cons c w ih =>
    have closed : opensWith dateOpening (c :: (w ++ after)) = false := by
      rw [← List.cons_append, opensWith_word solid_dateOpening ends,
        opensWith_of_lacks (by decide) lacks]
    rw [List.cons_append, bondPatterns_cons closed, ih (lacks_tail lacks), List.cons_append]

theorem bondPatterns_word {w : Text} (lacks : afterIgnoringCase? dateOpening w = none) :
    bondPatterns w = w := by
  have whole : bondPatterns (w ++ []) = w ++ bondPatterns [] := bondPatterns_append lacks rfl
  rwa [bondPatterns_nil, List.append_nil] at whole

/-- Characters that do not open a date go through as they are. -/
theorem bondPatterns_skip {w : Text} (other : ∀ c ∈ w, c.toLower ≠ 'd') (s : Text) :
    bondPatterns (w ++ s) = w ++ bondPatterns s := by
  induction w with
  | nil => rfl
  | cons c w ih =>
    rw [List.forall_mem_cons] at other
    have closed : opensWith dateOpening (c :: (w ++ s)) = false := by
      rw [Bool.eq_false_iff]
      intro date
      have first : (lower (c :: (w ++ s))).head? = some 'd' := head_of_opensWith date
      rw [lower_cons, List.head?_cons, Option.some.injEq] at first
      exact other.1 first
    rw [List.cons_append, bondPatterns_cons closed, ih other.2, List.cons_append]

theorem bondPatterns_blank {c : Char} (blank : isBlank c = true) (s : Text) :
    bondPatterns (c :: s) = c :: bondPatterns s := by
  apply bondPatterns_skip (w := [c])
  rw [List.forall_mem_singleton]
  intro letter
  have letterBlank : isBlank c.toLower = true := by rw [isBlank_toLower, blank]
  rw [letter, isBlank_of_graphic (by decide) (by decide)] at letterBlank
  cases letterBlank

@[simp] theorem bondPatterns_space (s : Text) : bondPatterns (' ' :: s) = ' ' :: bondPatterns s :=
  bondPatterns_blank isBlank_space s

/-- A word and the space after it go through as they are. -/
theorem IsWord.bondPatterns_append {w : Text} (word : IsWord w) (s : Text) :
    bondPatterns (w ++ ' ' :: s) = w ++ ' ' :: bondPatterns s := by
  rw [Description.bondPatterns_append word.noDate (endsWord_space _), bondPatterns_space]

/-- A date declaration with this pattern. -/
def dateText (pattern : Text) : Text := patternOpening ++ (pattern ++ patternClosing)

theorem patternBody?_eq {pattern : Text} (s : Text) (unquoted : '"' ∉ pattern)
    (oneLine : '\n' ∉ pattern) :
    patternBody? (pattern ++ (patternClosing ++ s)) = some (pattern, s) := by
  induction pattern with
  | nil => rfl
  | cons c pattern ih =>
    rw [List.mem_cons, not_or] at unquoted oneLine
    rw [List.cons_append, patternBody?, if_neg (by simp [Ne.symm unquoted.1]),
      if_neg (Ne.symm oneLine.1), ih unquoted.2 oneLine.2]
    rfl

/-- The blanks of a date pattern are bonded. -/
theorem bondPatterns_date {pattern : Text} (s : Text) (unquoted : '"' ∉ pattern)
    (oneLine : '\n' ∉ pattern) :
    bondPatterns (dateText pattern ++ s) = dateText (pattern.map bonded) ++ bondPatterns s := by
  have opened : openedPattern? (dateText pattern ++ s) = some (pattern, s) := by
    rw [dateText, List.append_assoc, List.append_assoc, openedPattern?,
      if_pos (opensWith_append patternOpening _), List.drop_left]
    exact patternBody?_eq s unquoted oneLine
  have kept : (dateText pattern ++ s).take dateOpening.length = dateOpening := by
    rw [dateText, patternOpening, List.append_assoc, List.append_assoc, List.take_left]
  obtain ⟨c, rest, split⟩ := List.exists_cons_of_ne_nil
    (show dateText pattern ++ s ≠ [] by simp [dateText, patternOpening])
  rw [split] at opened kept ⊢
  rw [bondPatterns]
  split
  · next found =>
    rw [opened] at found
    cases found
    rw [kept]
    simp [dateText, patternOpening, patternClosing]
  · next found =>
    rw [opened] at found
    cases found

end Description

end TrajectoryFormat

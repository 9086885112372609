import TrajectoryFormat.Proofs.LogicalLines

/-!
# Closed date patterns

Bonded patterns have no blanks, so whether a line closes its date patterns, all of them bonded,
depends on its words alone. Where every physical line closes the date patterns that it opens, all of
them are bonded before the lines are joined, and the logical lines come back from a second
preparation.
-/

namespace TrajectoryFormat.Description

open Text

variable {s t u v body line : Text} {lines : List Text} {pending : Option Text} {c : Char}

/-! ## Bonds and marks -/

/-- A text without bonds was there before. -/
theorem eq_of_bonds_of_notMem (bonds : List.Forall₂ Bonds s t) (noBond : dateBond ∉ t) : s = t := by
  induction bonds with
  | nil => rfl
  | cons head _ ih =>
    rw [List.mem_cons, not_or] at noBond
    rcases head with rfl | ⟨_, rfl⟩
    · rw [ih noBond.2]
    · exact absurd rfl noBond.1

theorem isBody_bonded (inner : IsBody body) : IsBody (body.map bonded) := by
  constructor
  · intro mem
    obtain ⟨c, here, lineEnd⟩ := List.mem_map.mp mem
    exact inner.oneLine (eq_of_bonded_eq lineEnd (by decide) ▸ here)
  · rintro ⟨a, b, split⟩
    obtain ⟨front, back, rfl, opening, _⟩ := List.map_eq_append_iff.mp split.symm
    obtain ⟨front, closing, rfl, _, closes⟩ := List.map_eq_append_iff.mp opening
    have bonds := bonds_map closing
    rw [closes] at bonds
    obtain rfl := eq_of_bonds_of_notMem bonds (by decide)
    exact inner.unclosed ⟨front, back, rfl⟩

/-- No character of the opening of a pattern is a bond. -/
theorem opensWith_of_bonds (bonds : List.Forall₂ Bonds s t)
    (opens : opensWith patternOpening t = true) :
    opensWith patternOpening s = true := by
  have same := sameIgnoringCase_iff.mp opens
  have noBond : dateBond ∉ t.take patternOpening.length := by
    intro mem
    have inside : dateBond.toLower ∈ lower patternOpening := by
      rw [same]
      exact List.mem_map_of_mem mem
    exact absurd inside (by decide)
  rw [opensWith, eq_of_bonds_of_notMem (List.forall₂_take _ bonds) noBond]
  exact opens

/-! ## Lines that close their patterns -/

/-- A line that closes the date patterns that it opens. What stands in a pattern satisfies `p`. -/
inductive Closes (p : Char → Prop) : Text → Prop
  | nil : Closes p []
  | plain {c : Char} {s : Text} (unopened : opensWith patternOpening (c :: s) = false)
      (rest : Closes p s) :
      Closes p (c :: s)
  | pattern {opening body after : Text} (same : lower opening = lower patternOpening)
      (inner : IsBody body) (inside : ∀ c ∈ body, p c) (rest : Closes p after) :
      Closes p (opening ++ (body ++ (patternClosing ++ after)))

def Closed : Text → Prop := Closes fun _ => True

def Bonded : Text → Prop := Closes fun c => isBlank c = false

theorem unopened_of_closed (closed : opensWith patternOpening s = false) :
    openedPattern? s = none := by
  rw [openedPattern?, closed, if_neg Bool.false_ne_true]

theorem bondPatterns_of_bonded (h : Bonded s) : bondPatterns s = s := by
  induction h with
  | nil => exact bondPatterns_nil
  | plain unopened _ ih => rw [bondPatterns_of_unopened (unopened_of_closed unopened), ih]
  | @pattern opening body after same inner inside _ ih =>
    have kept : ∀ c ∈ body, bonded c = c := by
      intro c mem
      rw [bonded, inside c mem, if_neg Bool.false_ne_true]
    rw [bondPatterns_opened inner same, List.map_congr_left kept, List.map_id', ih]

theorem bonded_bondPatterns (h : Closed s) : Bonded (bondPatterns s) := by
  induction h with
  | nil =>
    rw [bondPatterns_nil]
    exact .nil
  | @plain c s unopened _ ih =>
    have whole := bonds_bondPatterns (c :: s)
    rw [bondPatterns_of_unopened (unopened_of_closed unopened)] at whole ⊢
    refine .plain ?_ ih
    rw [Bool.eq_false_iff] at unopened ⊢
    exact fun opens => unopened (opensWith_of_bonds whole opens)
  | pattern same inner _ _ ih =>
    rw [bondPatterns_opened inner same]
    refine .pattern same (isBody_bonded inner) (fun c mem => ?_) ih
    obtain ⟨d, _, rfl⟩ := List.mem_map.mp mem
    exact isBlank_bonded d

/-! ## Words of bonded lines -/

namespace Bonded

theorem append (hu : Bonded u) (ends : endsWord v = true) (hv : Bonded v) : Bonded (u ++ v) := by
  induction hu with
  | nil => exact hv
  | @plain c s unopened _ ih =>
    have still : opensWith patternOpening (c :: s ++ v) = false := by
      rw [opensWith_word solid_patternOpening ends, unopened]
    exact .plain still ih
  | pattern same inner inside _ ih =>
    simp only [List.append_assoc]
    exact .pattern same inner inside ih

/-- A line is cut at the end of a word, which does not lie in a bonded pattern. -/
theorem cut (h : Bonded s) (split : s = u ++ v) (ends : endsWord v = true) :
    Bonded u ∧ Bonded v := by
  induction h generalizing u with
  | nil =>
    obtain ⟨rfl, rfl⟩ := List.append_eq_nil_iff.mp split.symm
    exact ⟨.nil, .nil⟩
  | @plain c s unopened rest ih =>
    cases u with
    | nil =>
      rw [List.nil_append] at split
      exact ⟨.nil, split ▸ .plain unopened rest⟩
    | cons d u =>
      rw [List.cons_append, List.cons.injEq] at split
      obtain ⟨rfl, rfl⟩ := split
      obtain ⟨hu, hv⟩ := ih rfl
      refine ⟨.plain ?_ hu, hv⟩
      rwa [← List.cons_append, opensWith_word solid_patternOpening ends] at unopened
  | @pattern opening body after same inner inside rest ih =>
    have whole : opening ++ (body ++ patternClosing) ++ after = u ++ v := by
      rw [← split]
      simp
    rcases List.append_eq_append_iff.mp whole with ⟨a, rfl, rfl⟩ | ⟨a, left, rfl⟩
    · obtain ⟨ha, hv⟩ := ih rfl
      refine ⟨?_, hv⟩
      simp only [List.append_assoc]
      exact .pattern same inner inside ha
    · cases a with
      | nil =>
        have first := Closes.pattern same inner inside .nil
        rw [List.append_nil] at left first
        exact ⟨left ▸ first, rest⟩
      | cons d a =>
        have unblank := solid_pattern same inside d (by rw [left]; simp)
        rw [List.cons_append, endsWord, unblank] at ends
        cases ends

end Bonded

theorem bonded_blank (blank : isBlank c = true) : Bonded (c :: s) ↔ Bonded s := by
  constructor
  · intro h
    generalize whole : c :: s = t at h
    cases h with
    | nil => cases whole
    | plain _ rest =>
      cases whole
      exact rest
    | @pattern opening _ _ same _ _ _ =>
      cases opening with
      | nil => cases same
      | cons d opening =>
        have unblank := lower_solid solid_patternOpening same d List.mem_cons_self
        rw [← (List.cons.inj whole).1, blank] at unblank
        cases unblank
  · intro h
    have ends : endsWord (c :: s) = true := blank
    refine .plain ?_ h
    rw [← List.nil_append (c :: s), opensWith_word solid_patternOpening ends]
    decide

/-- Whether a line is bonded depends on its words. -/
theorem bonded_iff : Bonded s ↔ ∀ w ∈ words s, Bonded w := by
  induction s using word_induction with
  | nil =>
    rw [words_nil]
    exact ⟨fun _ w mem => absurd mem List.not_mem_nil, fun _ => .nil⟩
  | blank c s blank ih => rw [bonded_blank blank, words_blank blank, ih]
  | word w s nonempty unblank ends ih =>
    rw [words_append nonempty unblank ends, List.forall_mem_cons, ← ih]
    exact ⟨fun h => h.cut rfl ends, fun ⟨hw, hs⟩ => hw.append ends hs⟩

theorem bonded_resumed (closed : Closed line) (begun : ∀ s ∈ pending, Bonded s) :
    Bonded (resumed pending line) := by
  have bonded : Bonded (bondPatterns (trim line)) := by
    rw [bonded_iff, words_bondPatterns_trim, ← bonded_iff]
    exact bonded_bondPatterns closed
  cases pending with
  | none => exact bonded
  | some s =>
    exact (begun s rfl).append (endsWord_space _) ((bonded_blank isBlank_space).mpr bonded)

theorem bonded_gather (closed : ∀ l ∈ lines, isSkippable l = false → Closed l)
    (begun : ∀ s ∈ pending, Bonded s) : ∀ l ∈ gather pending lines, Bonded l := by
  induction pending, lines using gather_induction with
  | done => exact fun l mem => absurd mem List.not_mem_nil
  | flush s =>
    rw [gather, List.forall_mem_singleton, bonded_iff, words_squeeze, ← bonded_iff]
    exact begun s rfl
  | skip pending line rest skipped ih =>
    rw [gather_skip skipped]
    exact ih (List.forall_mem_cons.mp closed).2 begun
  | opens pending line rest kept opened ih =>
    rw [List.forall_mem_cons] at closed
    rw [gather_open kept opened]
    refine ih closed.2 ?_
    rintro _ ⟨⟩
    exact bonded_resumed (closed.1 kept) begun
  | close pending line rest kept isClosed ih =>
    rw [List.forall_mem_cons] at closed
    rw [gather_close kept isClosed, List.forall_mem_cons, bonded_iff, words_squeeze, ← bonded_iff]
    exact ⟨bonded_resumed (closed.1 kept) begun,
      ih closed.2 fun s mem => absurd mem (Option.not_mem_none s)⟩

/-- Lines that close their date patterns are prepared once and for all. -/
theorem logicalLines_twice_of_closed (closed : ∀ l ∈ lines, isSkippable l = false → Closed l) :
    logicalLines (logicalLines lines) = logicalLines lines := by
  have bonded : ∀ l ∈ logicalLines lines, Bonded l := bonded_gather closed nofun
  exact logicalLines_eq_self (settled_logicalLines lines) fun l mem =>
    bondPatterns_of_bonded (bonded l mem)

end TrajectoryFormat.Description
